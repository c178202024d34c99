import Pianod.Server.SongCommands

/-!
# Playback, settings, credentials and users

The remaining handlers: they control the player thread, report and change settings, switch Pandora
credentials and send lists of users.
-/

namespace Pianod

open Foundation

/-- The three commands that start, stop and toggle playback. -/
inductive PlaybackCommand where
  | play
  | pause
  | toggle
deriving DecidableEq, Repr

/-- Which users a list shows. -/
inductive UserSelection where
  | privilege (privilege : Privilege)
  | online
  | rememberingCredentials
  /-- Those that autotuning considers. -/
  | autotune

/-- The three ways of configuring streaming. -/
inductive ShoutcastCommand where
  | server
  | on
  | off
deriving DecidableEq, Repr

namespace Server

variable (world : World)

/-! ## Playback -/

/-- Start, stop, and toggle playback. -/
def controlPlayback (server : Server) (session : Nat) (command : PlaybackCommand) : Server :=
  let app := server.app
  let state := match command with
    | .play => .playing
    | .pause => .paused
    | .toggle => if app.playbackState = .playing then .paused else .playing
  let settle (server : Server) : Server :=
    if server.app.playbackState = .paused then
      server.withApp { server.app with
        stalled := false
        stallSample := 0
        stallSampleTime := 0 }
    else server
  if PlayerMode.starting.level ≤ app.playerMode.level then
    let pausedSince :=
      if state = .playing then 0 else if app.pausedSince = 0 then world.now else app.pausedSince
    let controlled := { app with playbackState := state, pausedSince := pausedSince }
    if world.mutexLocks then
      let paused := { controlled with doPause := decide (state = .paused) }
      settle (((server.withApp paused).sendPlaybackStatus .service).reply session .sOk)
    else settle (((server.withApp controlled).reply session .eFailure).reply session .eNak)
  else if app.stationState.selectedStation.isNone then
    settle (server.reply session .eWrongState)
  else settle ((server.withApp { app with playbackState := state }).reply session .sOk)

/-- Resume playback so that the player thread can shut down. -/
def cancelPlayback (server : Server) : Server :=
  let app := server.app
  let cancels := PlayerMode.starting.level ≤ app.playerMode.level ∧
    app.playerMode.level < PlayerMode.finishedPlayback.level ∧ world.mutexLocks = true
  server.withApp { app with
    doQuit := app.doQuit || decide cancels
    pausedSince := 0 }

def maxSkips : Nat := 6

def skipPeriod : Nat := 3600

/-- Manage skip counts and frequency. -/
def skipsAreAvailable (server : Server) (session : Nat) (station : Text) : Server × Bool :=
  let recent := server.app.skipHistory.takeWhile fun skip => world.now < skip.2 + skipPeriod
  let used := recent.countP fun skip => Text.strcmp skip.1 station = .eq
  let available := decide (used < maxSkips)
  let skips := if available then (station, world.now) :: recent else recent
  ((server.withApp { server.app with skipHistory := skips }).reply session .iInfo, available)

/-- Skip the rest of the current song. -/
def nextSong (server : Server) (session : Nat) : Except Fault Server :=
  if PlayerMode.initialized.level < server.app.playerMode.level then
    match server.app.currentSong with
    | none => .error .nullDereference
    | some song =>
        let (server, available) :=
          if server.app.doQuit then (server, true)
          else server.skipsAreAvailable world session song.stationId
        if available then .ok ((server.cancelPlayback world).announceAction.reply session .sOk)
        else .ok (server.reply session .eQuota)
  else .ok (server.reply session .eWrongState)

/-- Select a station or the mix, and maybe start playing. -/
def selectStation (server : Server) (session : Nat) (station : Option StationCell)
    (automatic plays : Bool) : Except Fault Server :=
  match station with
  | none => .ok (server.reply session .eNotFound)
  | some station =>
      let selected := { server.app with
        stationState := { server.app.stationState with selectedStation := some station.address }
        automaticStations := automatic }
      match (server.withApp selected).announceAction.sendSelectedStation .service with
      | .error fault => .error fault
      | .ok server =>
          match server.recomputeStations world with
          | .error fault => .error fault
          | .ok server =>
              if plays then .ok (server.controlPlayback world session .play)
              else .ok (server.reply session .sOk)

/-- Stop when the song ends, or now. -/
def stopPlayback (server : Server) (session : Nat) (now : Bool) : Except Fault Server :=
  let stopped := server.withStations { server.app.stationState with selectedStation := none }
  let stopped := if now then stopped.cancelPlayback world else stopped
  match stopped.announceAction.sendSelectedStation .service with
  | .error fault => .error fault
  | .ok server => .ok (server.reply session .sOk)

/-- Change the state of playback and tell everyone if it has changed. -/
def changePlayback (server : Server) (session : Nat) (command : PlaybackCommand) : Server :=
  let controlled := server.controlPlayback world session command
  if controlled.app.playbackState = server.app.playbackState then controlled
  else controlled.announceAction

/-- Change the volume. -/
def setVolume (server : Server) (session : Nat) (level : Text) : Server :=
  let volume := server.app.settings.volume
  let change (volume : Int) : Server :=
    (((server.withApp { server.app with
      settings := { server.app.settings with volume := volume } }).reply session .sOk).sendResponse
        .iVolume)
  if Text.strcasecmp level (ascii "up") = .eq then
    if 100 ≤ volume then server.reply session .eInvalid else change (volume + 1)
  else if Text.strcasecmp level (ascii "down") = .eq then
    if volume ≤ -100 then server.reply session .eInvalid else change (volume - 1)
  else
    match strtol level .decimal with
    | (number, []) =>
        if number < -100 ∨ 100 < number then server.reply session .eInvalid else change number
    | (_, _ :: _) => server.reply session .eInvalid

/-! ## Settings -/

/-- Send a setting that is a text. -/
def reportSetting (server : Server) (session : Nat) (code : ResponseCode) (setting : Option Text) :
    Server :=
  match setting with
  | none => server.reply session .sDataEnd
  | some _ => server.send (.connection session) [.sData, code, .sDataEnd]

/-- Send a setting that always has a value. -/
def reportValue (server : Server) (session : Nat) (code : ResponseCode) : Server :=
  server.send (.connection session) [.sData, code, .sDataEnd]

/-- Replace the settings. -/
def withSettings (server : Server) (settings : Settings) : Server :=
  server.withApp { server.app with settings := settings }

/-- Replace one setting that is a text. -/
def setText (server : Server) (setting : TextSetting) (value : Option Text) : Server :=
  server.withSettings { server.app.settings with
    text := Function.update server.app.settings.text setting value }

/-- Update a setting that is a text; without a new value, erase it. -/
def changeSetting (server : Server) (session : Nat) (setting : TextSetting) (value : Option Text) :
    Server :=
  let changed := (server.setText setting value).reply session .sOk
  changed.withApp { changed.app with pianoparamChangePending := true }

/-- Take over a setting that is a number, tell everyone, and confirm. -/
def changeNumber (server : Server) (session : Nat) (settings : Settings) (code : ResponseCode) :
    Server :=
  ((server.withSettings settings).sendResponse code).reply session .sOk

def tlsFingerprintSize : Nat := 20

/-- The bytes that pairs of hexadecimal digits spell. -/
def fingerprintBytes : List UInt8 → List UInt8
  | high :: low :: digits =>
      UInt8.ofNat ((digitIn 16 high).getD 0 * 16 + (digitIn 16 low).getD 0) ::
        fingerprintBytes digits
  | _ => []

/-- Change the fingerprint of the Pandora server's certificate. -/
def changeFingerprint (server : Server) (session : Nat) (value : Text) : Server :=
  if value.length = 2 * tlsFingerprintSize ∧ value.all (fun byte => (digitIn 16 byte).isSome) then
    let changed := (server.withSettings { server.app.settings with
      tlsFingerprint := fingerprintBytes value }).reply session .sOk
    changed.withApp { changed.app with pianoparamChangePending := true }
  else server.reply session .eInvalid

/-- Set the proxy for the control connection. -/
def setControlProxy (server : Server) (session : Nat) (url : Text) : Server :=
  if world.proxyAccepted url then
    ((server.setText .controlProxy (some url)).sendResponse .iControlProxy).reply session .sOk
  else server.reply session .eInvalid

/-- Set the proxy for all accesses. -/
def setProxy (server : Server) (session : Nat) (url : Text) : Server :=
  if (ascii "http://").isPrefixOf (Text.foldCase (url.take 7)) then
    ((server.setText .proxy (some url)).sendResponse .iProxy).reply session .sOk
  else server.reply session .eInvalid

/-- Set the directory for captured streams, or none. -/
def setCapturePath (server : Server) (session : Nat) (off : Bool) (path : Option Text) : Server :=
  if off then (server.setText .capturePath none).reply session .sOk
  else
    match path with
    | none => server.reply session .eNak
    | some path =>
        if world.isDirectory path then
          ((server.setText .capturePath (some path)).sendResponse .iCapturePath).reply session .sOk
        else server.reply session .eNotFound

/-- Configure, start or stop streaming. -/
def setShoutcast (server : Server) (session : Nat) (command : ShoutcastCommand)
    (connect : Option Text) : Server :=
  let streaming (server : Server) (on : Bool) : Server :=
    (server.withApp { server.app with shoutcast := on }).sendResponse .iShoutcast
  match command with
  | .off =>
      (if server.app.shoutcast then streaming server false else server).reply session .sOk
  | .on =>
      if server.app.shoutcast then server.reply session .sOk
      else if world.shoutcastStarts then (streaming server true).reply session .sOk
      else server.reply session .eFailure
  | .server =>
      match connect with
      | none => server.reply session .eFailure
      | some connect =>
          ((server.setText .shoutcastServer (some connect)).sendResponse .iShoutcast).reply session
            .sOk

/-- Make a test tone. -/
def generateTestTone (server : Server) (session : Nat) : Server :=
  if world.audioDriver (server.app.settings.text .outputDriver) && world.audioOpens then
    server.reply session .sOk
  else server.reply session .eNak

/-! ## Credentials -/

/-- What the outcome of a login request means for new credentials. -/
def loginOutcome : LoginOutcome :=
  match world.failure .login with
  | none => .accepted
  | some .invalidLogin => .rejected
  | some _ => .transient

/-- Authenticate with the pending credentials and switch to them. -/
def setPandoraUser (server : Server) (session : Nat) : Except Fault Server :=
  let before := server.app.login
  match before.setPandoraUser ⟨loginOutcome world, world.now⟩,
      ServerState.loginChanged before.pandora (before.pending.username.getD [])
        (before.pending.password.getD []) with
  | .error fault, _ => .error fault
  | .ok _, .error fault => .error fault
  | .ok after, .ok changed =>
      let asked :=
        if changed then ((server.sendResponse .iServerStatus).barUiPianoCall world .login).1
        else server
      let settled := asked.withApp (asked.app.withLogin after)
      match if changed then loginOutcome world else .accepted with
      | .transient => .ok (settled.reply session .eRequestPending)
      | .rejected =>
          .ok ((settled.reply session .eCredentials).eventOccurred .authenticated .eCredentials)
      | .accepted =>
          let told := settled.reply session .sOk
          let told := if changed then told.sendResponse .iServerStatus else told
          let told := told.announcePrivileges none
          match (told.withApp { told.app with updateStationList := 0 }).updateStationList world with
          | .error fault => .error fault
          | .ok server =>
              let tuned := { server.app with
                automaticStations := server.app.automaticStations &&
                  server.app.stationState.selectedStation.isSome }
              .ok ((server.withApp tuned).eventOccurred .authenticated .sOk)

/-- Replace the pending credentials and log in with them. -/
def acceptNewCredentials (server : Server) (session : Nat) (remember : Bool)
    (username password : Text) (ownership : Ownership) (manager : Option Text) :
    Except Fault Server :=
  let user := (server.app.context session).user
  if (ownership = .mine ∨ remember = true) ∧ user = none then
    .ok (server.reply session .eLoginRequired)
  else
    let accept (manager : Option UserRef) : Except Fault Server :=
      let credentials :=
        ServerState.newCredentials user manager remember username password ownership
      if credentials.managerRule = .user ∧ credentials.manager = none then
        .error (.assertion "creds->manager_rule != MANAGER_USER || creds->manager")
      else
        (server.withSettings { server.app.settings with pending := credentials }).setPandoraUser
          world session
    match manager with
    | none => accept none
    | some name =>
        match server.getUserByName session name with
        | (server, none) => .ok server
        | (_, some manager) => accept (some (.listed manager.serial))

/-- Log in with the credentials saved in a user's record. -/
def restoreCredentials (server : Server) (session : Nat) (name : Text) : Except Fault Server :=
  match server.getUserByName session name with
  | (server, none) => .ok server
  | (server, some user) =>
      match UserDatabase.restorePandoraCredentials user with
      | .error fault => .error fault
      | .ok none => .ok (server.reply session .eWrongState)
      | .ok (some restored) =>
          match (server.withSettings { server.app.settings with
              pending := restored }).setPandoraUser world session with
          | .error fault => .error fault
          | .ok server => .ok server.announceAction

/-! ## Users -/

/-- Replace the user data. -/
def withUsers (server : Server) (users : UserDatabase) : Server :=
  server.withApp { server.app with users := users }

/-- Whether a user is logged in on an open connection. -/
def isListening (app : Application) (user : User) : Bool :=
  app.contexts.any fun context => context.isOpen && context.user == some (.listed user.serial)

/-- Whether a list shows a user. -/
def selectsUser (app : Application) (which : UserSelection) (user : User) : Bool :=
  match which with
  | .privilege privilege => app.users.havePrivilege (some user) privilege
  | .online => isListening app user
  | .rememberingCredentials => user.pandoraCredentials.username.isSome
  | .autotune =>
      let present := app.users.havePrivilege (some user) .present
      app.users.havePrivilege (some user) .influence &&
        if app.settings.automaticMode = tuneOnLogins then isListening app user
        else if app.settings.automaticMode = tuneOnAttribute then present
        else present || isListening app user

/-- Send the users that a list shows. -/
def sendSelectUsers (server : Server) (session : Nat) (which : UserSelection) (details : Bool) :
    Server :=
  (server.sendUsers session (server.app.users.userList.filter (selectsUser server.app which))
    details).reply session .sDataEnd

/-- Send all users, or the one with a name. -/
def sendUserList (server : Server) (session : Nat) (who : Option Text) : Server :=
  let users := server.app.users.userList.filter fun user =>
    who.all fun name => Text.strcasecmp name user.name = .eq
  (server.sendUsers session users true).reply session
    (if who.isSome && users.isEmpty then .eNotFound else .sDataEnd)

/-- Close the connections of a user, or of all visitors. -/
def userLogoff (server : Server) (user : Option UserRef) : Server :=
  let leaves (context : UserContext) : Bool := context.isOpen && context.user == user
  let told := server.notify leaves .iServerStatus
  let left := told.app.contexts.map fun context =>
    if leaves context then context.closeConnection else context
  told.withApp { told.app with contexts := left }

/-- Rate a station. -/
def rateStation (server : Server) (session : Nat) (user : UserRef) (rating : StationRating)
    (name : Option Text) : Except Fault Server :=
  match server.getStationByNameOrCurrent session name with
  | .error fault => .error fault
  | .ok (server, none) => .ok server
  | .ok (server, some station) =>
      match server.app.users.setStationRating user station.station.id rating,
          server.app.stationState.selectedCell with
      | .error fault, _ => .error fault
      | .ok _, .error fault => .error fault
      | .ok users, .ok selected =>
          let rated := (server.withUsers users).reply session .sOk
          let playing : Bool := match selected, rated.app.currentSong with
            | some cell, some song => cell.station.isQuickMix &&
                Text.strcmp cell.station.id song.stationId = .eq
            | _, _ => false
          let told :=
            if playing then rated.notify (fun context => context.user == some user) .iUserRating
            else rated
          (told.notify (fun context => context.user == some user)
            .iUserRatingsChanged).recomputeStations world

/-- Send the ratings of one station or of all. -/
def sendStationRatings (server : Server) (session : Nat) (name : Option Text) :
    Except Fault Server :=
  match name with
  | none =>
      .ok ((server.send (.connection session) (server.app.stationState.stations.flatMap fun _ =>
        [.sData, .iStation, .iUserRating])).reply session .sDataEnd)
  | some name =>
      match server.getStationByNameOrCurrent session (some name) with
      | .error fault => .error fault
      | .ok (server, none) => .ok server
      | .ok (server, some _) =>
          .ok (server.send (.connection session) [.sData, .iStation, .iUserRating, .sDataEnd])

/-- Send the stations, or those in the mix or out of it. -/
def sendStationList (server : Server) (session : Nat) (includes : Station → Bool) : Server :=
  let stations := server.app.stationState.stations
  let listed := stations.filter fun cell => includes cell.station && !cell.station.isQuickMix
  ((server.send (.connection session) (if stations.isEmpty then [] else [.sData])).send
    (.connection session) (listed.map fun _ => .iStation)).reply session .sDataEnd

/-- Report the current song and the state of the player. -/
def queryStatus (server : Server) (session : Nat) : Except Fault Server :=
  let described := match server.app.currentSong with
    | none => server
    | some song => ((server.reply session .sData).sendSongInfo (.connection session)
        song).sendStationRating session
  ((described.reply session .sDataEnd).sendPlaybackStatus (.connection session)).sendSelectedStation
    (.connection session)

/-- Grant or revoke a privilege. -/
def setPrivileges (server : Server) (session : Nat) (privilege : Privilege) (setting : Bool)
    (names : List Text) : Except Fault Server :=
  match server.validUserList session names with
  | (server, false) => .ok server
  | (server, true) =>
      match server.app.users.setPrivileges privilege setting names with
      | .error fault => .error fault
      | .ok users =>
          let changed := server.withUsers users
          match if privilege = .influence then changed.recomputeStations world else .ok changed with
          | .error fault => .error fault
          | .ok server => .ok ((server.announcePrivileges none).reply session .sOk)

/-- Choose the users that autotuning considers, or add to or remove from them. -/
def autotune (server : Server) (session : Nat) (clears consider : Bool) (names : List Text) :
    Except Fault Server :=
  match server.validUserList session names with
  | (server, false) => .ok server
  | (server, true) =>
      let cleared := if clears then server.app.users.clearPrivilege .present else server.app.users
      match cleared.setPrivileges .present consider names with
      | .error fault => .error fault
      | .ok users => ((server.withUsers users).reply session .sOk).recomputeStations world

/-- Create a user of a given rank. -/
def createUser (server : Server) (session : Nat) (rank : UserRank) (name : Text) :
    Except Fault Server :=
  match server.app.users.createUser name world.encryptedPassword with
  | none => .ok (server.reply session .eDuplicate)
  | some (created, newuser) =>
      match created.setRank (.listed newuser.serial) rank with
      | .error fault => .error fault
      | .ok users => .ok ((server.withUsers users).reply session .sOk)

/-- Change a user's rank. -/
def setUserRank (server : Server) (session : Nat) (name : Text) (rank : UserRank) :
    Except Fault Server :=
  match server.getUserByName session name with
  | (server, none) => .ok server
  | (server, some user) =>
      match server.app.users.setRank (.listed user.serial) rank with
      | .error fault => .error fault
      | .ok users =>
          .ok (((server.withUsers users).announcePrivileges (some (.listed user.serial))).reply
            session .sOk)

/-- Let a user change the password. -/
def changePassword (crypt : Text → Text → Text) (server : Server) (session : Nat) (user : UserRef)
    (old : Text) : Except Fault Server :=
  match server.app.users.user? user with
  | none => .error .useAfterFree
  | some record =>
      match server.app.users.authenticateUser crypt record.name old,
          server.app.users.changePassword crypt user old world.encryptedPassword with
      | .error fault, _ => .error fault
      | .ok _, .error fault => .error fault
      | .ok none, .ok _ => .ok (server.reply session .eCredentials)
      | .ok (some _), .ok users => .ok ((server.withUsers users).reply session .sOk)

/-- Remove a user who is not logged in. -/
def deleteUser (server : Server) (session : Nat) (name : Text) : Except Fault Server :=
  match server.getUserByName session name with
  | (server, none) => .ok server
  | (server, some user) =>
      if server.app.login.isUserOnline user.serial then .ok (server.reply session .eWrongState)
      else
        match server.app.users.deleteUser user.serial with
        | .error fault => .error fault
        | .ok users =>
            let settings := { server.app.settings with
              pending := ServerState.detach server.app.settings.pending user.serial
              pandora := ServerState.detach server.app.settings.pandora user.serial }
            .ok (((server.withUsers users).withSettings settings).reply session .sOk)

/-- Log a user off. -/
def kickUser (server : Server) (session : Nat) (name : Text) : Server :=
  match server.getUserByName session name with
  | (server, none) => server
  | (server, some user) =>
      if server.app.login.isUserOnline user.serial then
        ((server.userLogoff (some (.listed user.serial))).reply session .sOk).announceAction
      else server.reply session .eWrongState

/-- Log a user in. -/
def authenticate (crypt : Text → Text → Text) (server : Server) (session : Nat)
    (name password : Text) : Except Fault Server :=
  let enter (user : Option UserRef) : Server :=
    server.withApp (server.app.modifyContext session fun context => { context with user := user })
  match server.app.users.authenticateUser crypt name password with
  | .error fault => .error fault
  | .ok none => .ok ((enter none).reply session .eCredentials)
  | .ok (some user) =>
      let entered := (enter (some (.listed user.serial))).announceAction
      let rated := if entered.app.currentSong.isSome then entered.sendStationRating session
        else entered
      match rated.recomputeStations world with
      | .error fault => .error fault
      | .ok server => .ok ((server.reply session .sOk).sendPrivileges session)

end Server

end Pianod
