import Pianod.Server.Credentials
import Pianod.Server.Responses
import Pianod.Server.Stations
import Pianod.Server.Tuner

/-!
# The application state

One record holds what the command handlers read and change.  A handler turns the state and the
lines sent so far into new ones.  What the outside world answers during one command is a record of
its own: each request to the Pandora server is made at most once in a command, so that its outcome
is a function of the request.  Records of users who are logged in are not freed, and a session
whose user has no record is treated as a visitor's.
-/

namespace Pianod

open Foundation

/-- The feedback on a song. -/
inductive SongRating where
  | none
  | love
  | ban
deriving DecidableEq, Repr

inductive AudioFormat where
  | unknown
  | aacplus
  | mp3
deriving DecidableEq, Repr

/-- A track, or a track of a station's seeds or feedback. -/
structure PianoSong where
  /-- Where the record was allocated. -/
  address : Nat
  audioUrl : Option Text
  audioFormat : AudioFormat
  trackToken : Text
  musicId : Option Text
  feedbackId : Option Text
  seedId : Option Text
  artist : Text
  title : Text
  album : Option Text
  coverArt : Option Text
  detailUrl : Option Text
  stationId : Text
  rating : SongRating
deriving DecidableEq, Repr

/-- An artist among a station's seeds or in search results. -/
structure PianoArtist where
  name : Text
  musicId : Option Text
  seedId : Option Text
deriving DecidableEq, Repr

/-- The details of a station, stations among its seeds being given by their seed ids. -/
structure StationInfo where
  stationSeeds : List Text
  artistSeeds : List PianoArtist
  songSeeds : List PianoSong
  feedback : List PianoSong

/-- A cached record of station details. -/
structure StationInfoCache where
  stationId : Text
  /-- When it was retrieved. -/
  retrieved : Nat
  info : StationInfo

/-- What a search finds. -/
structure SearchResult where
  artists : List PianoArtist
  songs : List PianoSong

/-- The stages of the player thread. -/
inductive PlayerMode where
  | freed
  | starting
  | initialized
  | foundEsds
  | audioInitialized
  | foundStsz
  | samplesizeInitialized
  | recvData
  | finishedPlayback
deriving DecidableEq, Repr

/-- The position of a stage. -/
def PlayerMode.level : PlayerMode → Nat
  | .freed => 0
  | .starting => 1
  | .initialized => 2
  | .foundEsds => 3
  | .audioInitialized => 4
  | .foundStsz => 5
  | .samplesizeInitialized => 6
  | .recvData => 7
  | .finishedPlayback => 8

inductive PlaybackState where
  | paused
  | playing
deriving DecidableEq, Repr

inductive AudioQuality where
  | low
  | medium
  | high
deriving DecidableEq, Repr

/-- What a connection can be waiting for. -/
inductive WaitEvent where
  | authenticated
  | trackEnded
  | trackStarted
deriving DecidableEq, Repr

/-- The settings that are texts. -/
inductive TextSetting where
  | rpcHost
  | rpcTlsPort
  | partnerUser
  | partnerPassword
  | device
  | inkey
  | outkey
  | controlProxy
  | proxy
  | outputDriver
  | outputDevice
  | outputId
  | outputServer
  | capturePath
  | shoutcastServer
deriving DecidableEq, Repr

structure Settings where
  text : TextSetting → Option Text
  tlsFingerprint : List UInt8
  volume : Int
  pandoraRetry : Nat
  audioQuality : AudioQuality
  historyLength : Nat
  broadcastUserActions : Bool
  pauseTimeout : Nat
  playlistExpiration : Nat
  automaticMode : UInt32
  pandora : Credentials
  pending : Credentials

/-- What the server keeps for a connection, with the parts of the connection that it switches. -/
structure UserContext where
  /-- Whether the connection is open. -/
  isOpen : Bool
  /-- The user that it is logged in as. -/
  user : Option UserRef
  /-- The event that it waits for. -/
  waitingFor : Option WaitEvent
  /-- The term and the results of the last search. -/
  search : Option (Text × SearchResult)
  /-- Whether the socket is watched for input. -/
  readable : Bool
  /-- Whether input is read that TLS has decrypted already. -/
  buffering : Bool
  /-- Whether TLS has decrypted input. -/
  recordPending : Bool

namespace UserContext

/-- A connection that just arrived. -/
def connected (user : Option UserRef) : UserContext where
  isOpen := true
  user := user
  waitingFor := none
  search := none
  readable := true
  buffering := false
  recordPending := false

/-- What is left of a connection that is gone. -/
def gone : UserContext where
  isOpen := false
  user := none
  waitingFor := none
  search := none
  readable := false
  buffering := false
  recordPending := false

@[simp]
theorem gone_isOpen : gone.isOpen = false := rfl

@[simp]
theorem gone_user : gone.user = none := rfl

@[simp]
theorem gone_waitingFor : gone.waitingFor = none := rfl

/-- The part of a context that the user and the searches have nothing to do with. -/
structure Reception where
  isOpen : Bool
  waitingFor : Option WaitEvent
  readable : Bool
  buffering : Bool
  recordPending : Bool

def reception (context : UserContext) : Reception where
  isOpen := context.isOpen
  waitingFor := context.waitingFor
  readable := context.readable
  buffering := context.buffering
  recordPending := context.recordPending

/-- Initiate connection closure. -/
def closeConnection (context : UserContext) : UserContext :=
  { context with
    isOpen := false
    readable := false
    buffering := false }

/-- Enable or disable reading on a connection, which must be open. -/
def acceptInput (context : UserContext) (input : Bool) : UserContext :=
  { context with
    readable := input
    buffering := input && context.recordPending }

end UserContext

/-- An event that occurred, with the lines that it sent. -/
structure Occurrence where
  event : WaitEvent
  response : ResponseCode
  replies : List Message
deriving DecidableEq, Repr

structure Application where
  stationState : StationState
  /-- Whether the account owns the station record at an address. -/
  isCreator : Nat → Bool
  /-- The genres of each category; none before they are retrieved. -/
  genreStations : List (Text × List Text)
  /-- What was retrieved of each station. -/
  stationInfoCache : List StationInfoCache
  /-- The songs that are to be played. -/
  playlist : List PianoSong
  currentSong : Option PianoSong
  /-- The songs that were played, the latest first. -/
  songHistory : List PianoSong
  /-- The station and the time of each skip. -/
  skipHistory : List (Text × Nat)
  playbackState : PlaybackState
  automaticStations : Bool
  /-- When playback was paused. -/
  pausedSince : Nat
  playerMode : PlayerMode
  doQuit : Bool
  doPause : Bool
  stalled : Bool
  /-- The last sample of the seconds to play, and its time. -/
  stallSample : Int
  /-- When the song last moved. -/
  stallSampleTime : Nat
  shoutcast : Bool
  computationHadResults : Bool
  computationHasListeners : Bool
  /-- When to try to log in again. -/
  retryLoginTime : Nat
  /-- When to update the list of stations. -/
  updateStationList : Nat
  pianoparamChangePending : Bool
  quitRequested : Bool
  settings : Settings
  users : UserDatabase
  contexts : List UserContext
  /-- The events that have occurred; the source keeps no such record. -/
  occurrences : List Occurrence := []

/-- The requests of one command to the Pandora server. -/
inductive PianoRequest where
  | login
  | getStations
  | setQuickmix
  | createStation
  | renameStation
  | deleteStation
  | transformStation
  | getStationInfo (stationId : Text)
  | getGenreStations
  | search
  | rateSong
  | addTiredSong
  | deleteFeedback
  | addSeed
  | deleteSeed
  | explain
  | bookmarkSong
  | bookmarkArtist
deriving DecidableEq, Repr

/-- How a request can fail. -/
inductive TransactionFailure where
  /-- The request could not be put together. -/
  | request
  | network
  | invalidLogin
  /-- Any other refusal by the Pandora server. -/
  | response
deriving DecidableEq, Repr

/-- Commands shown to those who have a rank or a privilege. -/
structure CommandSet where
  /-- The rank that the set asks for. -/
  userType : Option UserRank
  /-- The privilege that it asks for. -/
  privilege : Option Privilege
  /-- Its patterns. -/
  statements : List Text

/-- The answers of the outside world during one command. -/
structure World where
  /-- The time. -/
  now : Nat
  /-- The table of the commands, for help. -/
  allStatements : List CommandSet
  /-- How each request to Pandora fails. -/
  failure : PianoRequest → Option TransactionFailure
  /-- A new station, and whether the account owns it. -/
  createdStation : Station × Bool
  /-- The stations that Pandora lists. -/
  stationList : List (Station × Bool)
  genreStations : List (Text × List Text)
  /-- What Pandora knows of a station. -/
  stationInfo : Text → StationInfo
  /-- What a search finds. -/
  searchResult : SearchResult
  /-- Whether a proxy is well formed. -/
  proxyAccepted : Text → Bool
  isDirectory : Text → Bool
  /-- Whether there is an audio driver with a name, or a default one. -/
  audioDriver : Option Text → Bool
  /-- Whether the device opens. -/
  audioOpens : Bool
  /-- Whether the stream service starts. -/
  shoutcastStarts : Bool
  /-- Whether the mutex can be locked. -/
  mutexLocks : Bool
  /-- A hash of the new password with a fresh salt. -/
  encryptedPassword : Text

/-- The state and the lines sent so far. -/
structure Server where
  app : Application
  /-- What was sent, in this order. -/
  sent : List Message

namespace Application

/-- What is kept for a connection. -/
def context (app : Application) (session : Nat) : UserContext :=
  app.contexts[session]?.getD .gone

/-- The record of the user logged in on a connection; visitors have none. -/
def user (app : Application) (session : Nat) : Option User :=
  (app.context session).user.bind app.users.user?

def modifyContext (app : Application) (session : Nat) (change : UserContext → UserContext) :
    Application :=
  { app with contexts := app.contexts.modify session change }

/-- The rank and privilege checks of the user module, for a connection. -/
def haveRank (app : Application) (session : Nat) (minimum : UserRank) : Bool :=
  app.users.haveRank (app.user session) minimum

def havePrivilege (app : Application) (session : Nat) (privilege : Privilege) : Bool :=
  app.users.havePrivilege (app.user session) privilege

/-- The part of the state that Pandora credentials live in. -/
def login (app : Application) : ServerState where
  users := app.users
  sessions := app.contexts.map (·.user)
  pandora := app.settings.pandora
  pending := app.settings.pending
  retryLoginTime := app.retryLoginTime
  pandoraRetry := app.settings.pandoraRetry
  pianoparamChangePending := app.pianoparamChangePending

/-- Take over a change of that part. -/
def withLogin (app : Application) (state : ServerState) : Application :=
  { app with
    users := state.users
    settings := { app.settings with pandora := state.pandora, pending := state.pending }
    retryLoginTime := state.retryLoginTime }

/-- What the tuner reads. -/
def tuningContext (app : Application) : TuningContext where
  automaticStations := app.automaticStations
  automaticMode := app.settings.automaticMode
  listeners := app.contexts.map fun context => ⟨context.isOpen, context.user.bind app.users.user?⟩
  users := app.users

/-- What the tuner changes. -/
def tuner (app : Application) : Tuner where
  stations := app.stationState.stations.map (·.station)
  computationHadResults := app.computationHadResults
  computationHasListeners := app.computationHasListeners
  notices := []

/-- Take over the tuner's results; only mix flags of station records change. -/
def withTuner (app : Application) (tuner : Tuner) : Application :=
  { app with
    stationState := { app.stationState with
      stations := List.zipWith (fun cell station =>
        { cell with station := { cell.station with useQuickMix := station.useQuickMix } })
        app.stationState.stations tuner.stations }
    computationHadResults := tuner.computationHadResults
    computationHasListeners := tuner.computationHasListeners }

end Application

namespace Server

/-! ## Sending -/

def send (server : Server) (recipient : Recipient) (codes : List ResponseCode) : Server :=
  { server with sent := server.sent ++ codes.map (⟨recipient, ·⟩) }

/-- Send a line to the connection that a command came from. -/
def reply (server : Server) (session : Nat) (code : ResponseCode) : Server :=
  server.send (.connection session) [code]

/-- Send a line to every connection of the service. -/
def sendResponse (server : Server) (code : ResponseCode) : Server :=
  server.send .service [code]

/-- Send lines to the connections whose context is selected. -/
def notify (server : Server) (selects : UserContext → Bool) (code : ResponseCode) : Server :=
  { server with sent := server.sent ++
      (server.app.contexts.zipIdx.filter fun entry => selects entry.1).map fun entry =>
        ⟨.connection entry.2, code⟩ }

/-- Replace the state, keeping the lines. -/
def withApp (server : Server) (app : Application) : Server := { server with app := app }

/-- Tell everyone what a user did, if that is wanted. -/
def announceAction (server : Server) : Server :=
  if server.app.settings.broadcastUserActions then server.sendResponse .iInfo else server

def sendSelectedStation (server : Server) (there : Recipient) : Except Fault Server :=
  match server.app.stationState.selectedCell with
  | .error fault => .error fault
  | .ok none => .ok (server.send there [.iSelectedStationNone])
  | .ok (some _) => .ok (server.send there [.iSelectedStation])

def sendPlaybackStatus (server : Server) (there : Recipient) : Server :=
  let app := server.app
  if PlayerMode.samplesizeInitialized.level ≤ app.playerMode.level ∧
      app.playerMode.level < PlayerMode.finishedPlayback.level then
    if app.playbackState = .paused then server.send there [.iPaused]
    else if app.stalled then server.send there [.iStalled]
    else server.send there [.iPlaying]
  else if app.playbackState = .playing ∧ app.stationState.selectedStation.isSome then
    server.send there [.iBetweenTracks]
  else server.send there [.iStopped]

/-- The line about a field, if the field is there. -/
def dataLine (code : ResponseCode) : Option Text → List ResponseCode
  | none => []
  | some _ => [code]

/-- The lines about a track, and about an element of station details or search results, which
differ in the rating. -/
def songLines (app : Application) (song : PianoSong) (rated : Bool) : List ResponseCode :=
  [.iId] ++ dataLine .iAlbum song.album ++ [.iArtist, .iSong] ++
    dataLine .iCoverArt song.coverArt ++
    (match pianoFindStationById app.stationState.stations song.stationId with
    | none => []
    | some _ => [.iStation]) ++
    (if rated then [.iRating] else []) ++ dataLine .iInfoUrl song.detailUrl

def sendSongInfo (server : Server) (there : Recipient) (song : PianoSong) : Server :=
  server.send there (songLines server.app song true)

/-- The rating that a connection's user gave a station. -/
def sendStationRating (server : Server) (session : Nat) : Server :=
  server.reply session .iUserRating

/-- A list of tracks, each introduced and followed by the user's rating of its station. -/
def sendSongList (server : Server) (session : Nat) (songs : List PianoSong) : Server :=
  (server.send (.connection session) (songs.flatMap fun song =>
    .sData :: songLines server.app song true ++ [.iUserRating])).reply session .sDataEnd

/-- A list of details or search results; only feedback and seeds have ratings. -/
def sendDetails (server : Server) (session : Nat) (songs : List PianoSong) (rated : Bool) :
    Server :=
  server.send (.connection session) (songs.flatMap fun song =>
    .sData :: songLines server.app song rated)

def sendArtists (server : Server) (session : Nat) (artists : List PianoArtist) (seeds : Bool) :
    Server :=
  server.send (.connection session) (artists.flatMap fun _ =>
    [.sData, .iId, .iArtist] ++ if seeds then [.iRating] else [])

def sendPrivileges (server : Server) (session : Nat) : Server :=
  server.reply session .iUserPrivileges

/-- Tell the sessions of a user, or everyone, their privileges. -/
def announcePrivileges (server : Server) (user : Option UserRef) : Server :=
  server.notify (fun context => user.isNone || context.user == user) .iUserPrivileges

/-- Users, each introduced, with or without their privileges. -/
def sendUsers (server : Server) (session : Nat) (users : List User) (details : Bool) : Server :=
  server.send (.connection session) (users.flatMap fun _ =>
    [.sData, .iId] ++ if details then [.iUserPrivileges] else [])

/-- Find a user by name, replying if there is none. -/
def getUserByName (server : Server) (session : Nat) (name : Text) : Server × Option User :=
  match server.app.users.findUser name with
  | none => (server.reply session .eNotFound, none)
  | some user => (server, some user)

/-- Check a list of user names, replying if some are unknown. -/
def validUserList (server : Server) (session : Nat) (names : List Text) : Server × Bool :=
  let unknown := names.filter fun name => (server.app.users.findUser name).isNone
  if unknown.isEmpty then (server, true)
  else ((server.send (.connection session) (unknown.map fun _ => .iNotFound)).reply session
    .eNotFound, false)

@[simp]
theorem send_app (server : Server) (recipient : Recipient) (codes : List ResponseCode) :
    (server.send recipient codes).app = server.app := rfl

@[simp]
theorem reply_app (server : Server) (session : Nat) (code : ResponseCode) :
    (server.reply session code).app = server.app := rfl

@[simp]
theorem sendResponse_app (server : Server) (code : ResponseCode) :
    (server.sendResponse code).app = server.app := rfl

@[simp]
theorem announceAction_app (server : Server) : server.announceAction.app = server.app := by
  unfold announceAction
  split <;> rfl

@[simp]
theorem withApp_app (server : Server) (app : Application) : (server.withApp app).app = app := rfl

@[simp]
theorem withApp_sent (server : Server) (app : Application) :
    (server.withApp app).sent = server.sent := rfl

@[simp]
theorem reply_sent (server : Server) (session : Nat) (code : ResponseCode) :
    (server.reply session code).sent = server.sent ++ [⟨.connection session, code⟩] := rfl

@[simp]
theorem sendResponse_sent (server : Server) (code : ResponseCode) :
    (server.sendResponse code).sent = server.sent ++ [⟨.service, code⟩] := rfl

/-! ## Waiting -/

/-- Stop reading commands from a connection until an event. -/
def waitForEvent (server : Server) (session : Nat) (event : WaitEvent) : Except Fault Server :=
  if (server.app.context session).waitingFor ≠ none then
    .error (.assertion "context->waiting_for == EVENT_NONE")
  else if !(server.app.context session).isOpen then
    .error (.assertion "connection->state == FB_SOCKET_STATE_OPEN")
  else
    .ok (server.withApp (server.app.modifyContext session fun context =>
      { context with waitingFor := some event }.acceptInput false))

/-- Only an open connection starts to wait, and only when it does not wait yet. -/
theorem waitForEvent_eq_ok {server after : Server} {session : Nat} {event : WaitEvent}
    (waits : server.waitForEvent session event = .ok after) :
    (server.app.context session).waitingFor = none ∧
      (server.app.context session).isOpen = true ∧
      after = server.withApp (server.app.modifyContext session fun context =>
        { context with waitingFor := some event }.acceptInput false) := by
  unfold waitForEvent at waits
  split_ifs at waits with busy closed
  cases waits
  exact ⟨not_not.mp busy, by simpa using closed, rfl⟩

/-- Answer the open connections that wait for an event, and read from them again. -/
def eventOccurred (server : Server) (event : WaitEvent) (response : ResponseCode) : Server :=
  let waiting (context : UserContext) : Bool := context.isOpen && context.waitingFor == some event
  let told := server.notify waiting response
  let resumed := told.app.contexts.map fun context =>
    if waiting context then { context with waitingFor := none }.acceptInput true else context
  told.withApp { told.app with
    contexts := resumed
    occurrences := told.app.occurrences ++
      [⟨event, response, told.sent.drop server.sent.length⟩] }

/-! ## Transactions -/

variable (world : World)

/-- What everyone is told when a request fails. -/
def failureCode : TransactionFailure → ResponseCode
  | .request => .eFailure
  | .network => .eNetworkFailure
  | .invalidLogin => .eAuthentication
  | .response => .eAuthentication

/-- Make a request; report whether it succeeded. -/
def barUiPianoCall (server : Server) (request : PianoRequest) : Server × Bool :=
  match world.failure request with
  | none => (server, true)
  | some failure => (server.sendResponse (failureCode failure), false)

/-- Make a request and, given a session, reply with its outcome. -/
def pianoTransaction (server : Server) (event : Option Nat) (request : PianoRequest) :
    Server × Bool :=
  let (called, success) := server.barUiPianoCall world request
  match event with
  | none => (called, success)
  | some session => (called.reply session (if success then .sOk else .eNak), success)

theorem pianoTransaction_of_success {request : PianoRequest}
    (success : world.failure request = none) (server : Server) (event : Option Nat) :
    server.pianoTransaction world event request =
      (match event with
        | none => server
        | some session => server.reply session .sOk, true) := by
  unfold pianoTransaction barUiPianoCall
  rw [success]
  cases event <;> rfl

theorem pianoTransaction_of_failure {request : PianoRequest} {failure : TransactionFailure}
    (failed : world.failure request = some failure) (server : Server) (event : Option Nat) :
    server.pianoTransaction world event request =
      (match event with
        | none => server.sendResponse (failureCode failure)
        | some session => (server.sendResponse (failureCode failure)).reply session .eNak,
        false) := by
  unfold pianoTransaction barUiPianoCall
  rw [failed]
  cases event <;> rfl

@[simp]
theorem pianoTransaction_app (server : Server) (event : Option Nat) (request : PianoRequest) :
    (server.pianoTransaction world event request).1.app = server.app := by
  unfold pianoTransaction barUiPianoCall
  cases world.failure request <;> cases event <;> rfl

/-- The lines that a notice of the tuner comes to. -/
def tunerNotice (server : Server) : TunerNotice → Server
  | .status _ => server.sendResponse .iServerStatus
  | .setQuickmix => (server.pianoTransaction world none .setQuickmix).1
  | .mixChanged => server.sendResponse .iMixChanged

/-- Change the mix stations according to the considered users' ratings. -/
def recomputeStations (server : Server) : Except Fault Server :=
  match Pianod.recomputeStations server.app.tuningContext server.app.tuner with
  | .error fault => .error fault
  | .ok tuner =>
      .ok (tuner.notices.foldl (tunerNotice world) (server.withApp (server.app.withTuner tuner)))

end Server

/-! ## A small server -/

/-- A world in which some requests meet a network failure. -/
def sampleWorld (failing : List PianoRequest) : World where
  now := 100
  allStatements := []
  failure := fun request => if request ∈ failing then some .network else none
  createdStation := (⟨ascii "Folk", ascii "f", false, false⟩, false)
  stationList := []
  genreStations := []
  stationInfo := fun _ => ⟨[], [], [], []⟩
  searchResult := ⟨[], []⟩
  proxyAccepted := fun _ => true
  isDirectory := fun _ => true
  audioDriver := fun _ => true
  audioOpens := true
  shoutcastStarts := true
  mutexLocks := true
  encryptedPassword := ascii "./xyz"

/-- The pseudo-station and a selected station, and one user of a given rank, logged in on the only
connection. -/
def sampleApplication (rank : UserRank) : Application where
  stationState :=
    { stations := [⟨0, ascii "QuickMix", ascii "q", true, false⟩,
        ⟨1, ascii "Rock", ascii "r", false, true⟩]
      selectedStation := some 1
      nextAddress := 2 }
  isCreator := fun _ => true
  genreStations := []
  stationInfoCache := []
  playlist := []
  currentSong := none
  songHistory := []
  skipHistory := []
  playbackState := .playing
  automaticStations := false
  pausedSince := 0
  playerMode := .freed
  doQuit := false
  doPause := false
  stalled := false
  stallSample := 0
  stallSampleTime := 0
  shoutcast := false
  computationHadResults := false
  computationHasListeners := false
  retryLoginTime := 0
  updateStationList := 0
  pianoparamChangePending := false
  quitRequested := false
  settings :=
    { text := fun _ => none
      tlsFingerprint := []
      volume := 0
      pandoraRetry := 60
      audioQuality := .high
      historyLength := 10
      broadcastUserActions := true
      pauseTimeout := 1800
      playlistExpiration := 3600
      automaticMode := tuneOnLogins
      pandora := .destroyed
      pending := .destroyed }
  users :=
    { userList := [{
        serial := 1
        name := ascii "ann"
        password := []
        rank := rank
        privileges := Privilege.initialValue
        pandoraCredentials := .destroyed
        stationPreferences := none }]
      startscript := {
        serial := 0
        name := ascii "startscript"
        password := []
        rank := .administrator
        privileges := fun _ => true
        pandoraCredentials := .destroyed
        stationPreferences := none }
      dirty := false
      visitorRank := .listener
      ownershipRule := .administrator
      nextSerial := 2 }
  contexts := [.connected (some (.listed 1))]

end Pianod
