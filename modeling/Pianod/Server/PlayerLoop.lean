import Pianod.Server.Commands

/-!
# The player loop

The main loop goes round through sections: it cleans up after a song, takes over settings, logs in
again, starts the next song, watches the player thread and polls the service.  The player thread
moves through its stages on its own at any time while there is one, and a signal can arrive at any
time.  The lines that are sent are left out.
-/

namespace Pianod

open Foundation

/-- What the player thread returns. -/
inductive PlayerReturn where
  | ok
  | softFail
  | hardFail
deriving DecidableEq, Repr

/-- What a poll of the service reports; the parser has seen to the numbers in a command line. -/
inductive ServiceEvent where
  | connect
  | close (session : Nat)
  | input (session : Nat) (line : CommandLine) (inRange : line.InRange)
  | stopped
  | timeout

/-- The answers of the outside world to one section of the loop. -/
structure LoopWorld where
  world : World
  /-- What the player thread ended with. -/
  threadRet : PlayerReturn
  /-- Whether libpiano can be initialised with the new settings. -/
  initialises : Bool
  /-- How the request for a playlist fails. -/
  playlistFailure : Option TransactionFailure
  /-- The playlist that Pandora sends. -/
  retPlaylist : List PianoSong
  /-- The seconds that the player thread has still to play. -/
  songRemaining : Int
  /-- Whether the streaming service starts for a song. -/
  streams : Bool
  /-- The event of this round. -/
  event : ServiceEvent

/-- Where the loop is. -/
inductive LoopSection where
  | cleanup
  | settings
  | login
  | ready
  | fetch
  | launch (newList : Bool)
  | announce (newList : Bool)
  | monitor
  | expire
  | service
  | stopped
deriving DecidableEq, Repr

/-- The state of the loop.  Received songs are numbered, and the freed ones are remembered. -/
structure LoopState where
  app : Application
  /-- The section of the loop that is next. -/
  point : LoopSection
  /-- When the playlist was retrieved. -/
  playlistRetrieved : Nat
  /-- Whether the status is to be announced. -/
  broadcastStatus : Bool
  /-- How many errors in a row were forgiven. -/
  playerSoftErrors : Nat
  /-- Whether the services are being closed. -/
  quitInitiated : Bool
  /-- Whether the end was signalled. -/
  shutdownSignalled : Bool
  /-- The number of the song that is received next. -/
  nextSong : Nat
  /-- The numbers of the songs that were freed. -/
  freed : List Nat

/-- How the loop can stop. -/
inductive LoopFault where
  /-- A song is missing where one is used, or there where none may be. -/
  | song (fault : Fault)
  | other (fault : Fault)

/-- Records for freshly parsed songs. -/
def allocateSongs (next : Nat) : List PianoSong → List PianoSong
  | [] => []
  | song :: songs => { song with address := next } :: allocateSongs (next + 1) songs

/-- Whether a song in the queue is of the selected station, or of one of the stations in the mix. -/
def Application.stillSelected (app : Application) (song : PianoSong) : Except Fault Bool :=
  match app.stationState.selectedCell with
  | .error fault => .error fault
  | .ok none => .ok false
  | .ok (some selected) =>
      if selected.station.isQuickMix then
        match pianoFindStationById app.stationState.stations song.stationId with
        -- Can occur if the station was deleted or credentials changed.
        | none => .ok false
        | some cell =>
            if cell.station.isQuickMix then .error (.assertion "!station->isQuickMix")
            else .ok cell.station.useQuickMix
      else .ok (decide (Text.strcmp song.stationId selected.station.id = .eq))

/-- Split the queue where the first song is that is still selected. -/
def Application.splitUnselected (app : Application) :
    List PianoSong → Except Fault (List PianoSong × List PianoSong)
  | [] => .ok ([], [])
  | song :: songs =>
      match app.stillSelected song with
      | .error fault => .error fault
      | .ok true => .ok ([], song :: songs)
      | .ok false =>
          match app.splitUnselected songs with
          | .error fault => .error fault
          | .ok (removed, kept) => .ok (song :: removed, kept)

namespace LoopState

def withApp (state : LoopState) (app : Application) : LoopState := { state with app := app }

def goto (state : LoopState) (point : LoopSection) : LoopState := { state with point := point }

/-- Call a function that can send lines. -/
def serve (state : LoopState) (handler : Server → Except Fault Server) :
    Except LoopFault LoopState :=
  match handler ⟨state.app, []⟩ with
  | .error fault => .error (.other fault)
  | .ok server => .ok (state.withApp server.app)

/-- Fetch a new playlist from Pandora. -/
def getPlayList (state : LoopState) (world : LoopWorld) : Except LoopFault LoopState :=
  if !state.app.playlist.isEmpty then .error (.song (.assertion "app->playlist == NULL"))
  else
    match state.app.stationState.selectedCell with
    | .error fault => .error (.other fault)
    | .ok _ =>
        if world.playlistFailure.isSome || world.retPlaylist.isEmpty then
          .ok (state.withApp { state.app with
            stationState := { state.app.stationState with selectedStation := none } })
        else
          .ok { state with
            app := { state.app with playlist := allocateSongs state.nextSong world.retPlaylist }
            playlistRetrieved := world.world.now
            nextSong := state.nextSong + world.retPlaylist.length }

/-- Delete songs on the front of the queue that aren't among the selected stations anymore. -/
def purgeUnselectedSongs (state : LoopState) : Except LoopFault LoopState :=
  match state.app.splitUnselected state.app.playlist with
  | .error fault => .error (.other fault)
  | .ok (removed, kept) =>
      .ok { state with
        app := { state.app with
          playlist := kept
          updateStationList :=
            if !removed.isEmpty && kept.isEmpty then 0 else state.app.updateStationList }
        freed := state.freed ++ removed.map (·.address) }

/-- Prepend a song to the history, and limit its length. -/
def prependHistory (state : LoopState) (song : PianoSong) : LoopState :=
  let length := state.app.settings.historyLength
  if length ≠ 0 then
    let history := song :: state.app.songHistory
    { state with
      app := { state.app with songHistory := history.take length }
      freed := state.freed ++ (history.drop length).map (·.address) }
  else state

/-- Start the player thread on the next song. -/
def playbackStart (state : LoopState) : Except LoopFault LoopState :=
  if state.app.currentSong.isSome then .error (.song (.assertion "!app->current_song"))
  else
    match state.app.playlist with
    | [] => .error (.song (.assertion "app->playlist"))
    | song :: songs =>
        match song.audioUrl with
        | none =>
            .ok { state with
              app := { state.app with playlist := songs }
              freed := state.freed ++ [song.address] }
        | some _ =>
            .ok { state with
              app := { state.app with
                playlist := songs
                currentSong := some song
                playerMode := .starting
                doQuit := false
                doPause := false
                stalled := false
                stallSample := 0
                stallSampleTime := 0 }
              broadcastStatus := true }

/-- The player thread has completed, clean up. -/
def playbackCleanup (state : LoopState) (ret : PlayerReturn) : Except LoopFault LoopState :=
  match state.app.currentSong with
  | none => .error (.song (.assertion "app->current_song"))
  | some song =>
      let softErrors := match ret with
        | .ok => 0
        | .softFail => state.playerSoftErrors + 1
        | .hardFail => state.playerSoftErrors
      let stops : Bool := match ret with
        | .ok => false
        | .softFail => decide (1 < softErrors)
        | .hardFail => true
      let stationState :=
        if stops then { state.app.stationState with selectedStation := none }
        else state.app.stationState
      let cleaned := { state with
        app := { state.app with
          stationState := stationState
          playerMode := .freed
          doQuit := false
          doPause := false
          stalled := false
          stallSample := 0
          stallSampleTime := 0 }
        playerSoftErrors := softErrors }
      let moved := cleaned.prependHistory song
      (moved.withApp { moved.app with currentSong := none }).serve fun server =>
        .ok (server.eventOccurred .trackEnded .sOk)

/-- Change the settings on libpiano and rewind the login. -/
def changePianoSettings (state : LoopState) (initialises : Bool) : LoopState :=
  let app := state.app
  let replaced :=
    if initialises then { app with
      stationState := { app.stationState with stations := [], selectedStation := none }
      genreStations := [] }
    else app
  state.withApp { replaced.withLogin app.login.changePianoSettings with updateStationList := 0 }

/-- Watch for stalls. -/
def checkStall (state : LoopState) (now : Nat) (songRemaining : Int) : LoopState :=
  if state.app.stallSampleTime ≠ 0 ∧ songRemaining = state.app.stallSample then
    state.withApp { state.app with stalled := decide (2 < now - state.app.stallSampleTime) }
  else
    state.withApp { state.app with
      stalled := false
      stallSample := songRemaining
      stallSampleTime := now }

/-- When playback of the playlist is about to complete, get a new one. -/
def prefetch (state : LoopState) (world : LoopWorld) : Except LoopFault LoopState :=
  match state.serve (Server.updateStationList world.world) with
  | .error fault => .error fault
  | .ok state =>
      if state.app.stationState.selectedStation.isSome then
        match state.getPlayList world with
        | .error fault => .error fault
        | .ok state => state.serve fun server => .ok (server.applyStationInfo world.world)
      else .ok state

/-- Check and respond to various things with the player. -/
def checkPlayerStatus (state : LoopState) (world : LoopWorld) : Except LoopFault LoopState :=
  if state.broadcastStatus then
    match state.app.currentSong with
    | none => .error (.song .nullDereference)
    | some _ =>
        { state with broadcastStatus := false }.serve fun server =>
          .ok (server.eventOccurred .trackStarted .sOk)
  else
    match state.app.playbackState with
    | .playing =>
        let purged :=
          if state.app.stationState.selectedStation.isSome && world.songRemaining ≤ 5 then
            state.purgeUnselectedSongs
          else .ok state
        match purged with
        | .error fault => .error fault
        | .ok state =>
            let fetched :=
              if state.app.stationState.selectedStation.isSome && state.app.playlist.isEmpty &&
                  !state.app.pianoparamChangePending && decide (world.songRemaining < 15) then
                state.prefetch world
              else .ok state
            match fetched with
            | .error fault => .error fault
            | .ok state => .ok (state.checkStall world.world.now world.songRemaining)
    | .paused =>
        if state.app.pausedSince ≠ 0 ∧
            state.app.settings.pauseTimeout < world.world.now - state.app.pausedSince then
          state.serve fun server => .ok (server.cancelPlayback world.world)
        else .ok state

/-- Process an event from the service. -/
def runService (state : LoopState) (world : World) (crypt : Text → Text → Text) :
    ServiceEvent → Except LoopFault LoopState
  | .connect =>
      -- The greeting describes the selected station.
      match state.app.stationState.selectedCell with
      | .error fault => .error (.other fault)
      | .ok _ => .ok (state.withApp { state.app with
          contexts := state.app.contexts ++ [.connected none] })
  | .close session =>
      state.serve fun server =>
        (server.withApp (server.app.modifyContext session fun _ => .gone)).recomputeStations world
  | .input session line _ => state.serve fun server => server.execute world crypt session line
  | .stopped => .ok (state.goto .stopped)
  | .timeout => .ok state

/-- Check the signal handler's flag for shutdown requests. -/
def checkSignal (state : LoopState) (world : World) : Except LoopFault LoopState :=
  if state.shutdownSignalled then
    { state with
      app := { state.app with quitRequested := true }
      shutdownSignalled := false }.serve fun server => .ok (server.cancelPlayback world)
  else .ok state

/-- Decide what a player that is fresh and ready has to do. -/
def startUp (state : LoopState) : Except LoopFault LoopState :=
  let app := state.app
  if app.playerMode ≠ .freed then .ok (state.goto .monitor)
  else if app.quitRequested then
    .ok { state with
      quitInitiated := true
      point := .monitor }
  else if app.stationState.selectedStation.isNone then
    .ok ((state.withApp { app with playbackState := .paused }).goto .monitor)
  else if app.automaticStations && app.tuner.computedStationsIsEmptySet then
    .ok (state.goto .monitor)
  else if app.playbackState = .playing then
    match state.purgeUnselectedSongs with
    | .error fault => .error fault
    | .ok state => .ok (state.goto .fetch)
  else .ok (state.goto .monitor)

/-- If a new playlist is needed, get one. -/
def fetch (state : LoopState) (world : LoopWorld) : Except LoopFault LoopState :=
  let newList := state.app.playlist.isEmpty
  let fetched : Except LoopFault LoopState :=
    if newList then
      match state.serve (Server.updateStationList world.world) with
      | .error fault => .error fault
      | .ok state =>
          -- If the current station still exists, use it.
          if state.app.stationState.selectedStation.isSome then state.getPlayList world
          else .ok state
    else .ok state
  match fetched with
  | .error fault => .error fault
  | .ok state =>
      .ok (state.goto (if state.app.playlist.isEmpty then .monitor else .launch newList))

/-- Start streaming, unless the format of the next song is not supported, and start the player. -/
def launch (state : LoopState) (streams newList : Bool) : Except LoopFault LoopState :=
  let unsupported := state.app.playlist.head?.any fun song => song.audioFormat = .aacplus
  let streaming := state.withApp { state.app with
    shoutcast := state.app.shoutcast && !unsupported && streams }
  match streaming.playbackStart with
  | .error fault => .error fault
  | .ok state => .ok (state.goto (.announce newList))

/-- Tell everyone about the song, and fill in metadata if the list is new. -/
def announce (state : LoopState) (world : World) (newList : Bool) : Except LoopFault LoopState :=
  match state.app.currentSong with
  | none => .error (.song (.assertion "song"))
  | some _ =>
      if newList then
        (state.goto .monitor).serve fun server => .ok (server.applyStationInfo world)
      else .ok (state.goto .monitor)

/-- The playlist expires, since attempts to play old items fail. -/
def expire (state : LoopState) (now : Nat) : LoopState :=
  if state.playlistRetrieved + state.app.settings.playlistExpiration < now then
    { state with
      app := { state.app with playlist := [] }
      freed := state.freed ++ state.app.playlist.map (·.address) }
  else state

/-- Go through the next section of the loop. -/
def proceed (crypt : Text → Text → Text) (state : LoopState) (world : LoopWorld) :
    Except LoopFault LoopState :=
  match state.point with
  | .cleanup =>
      if state.app.playerMode = .finishedPlayback then
        (state.goto .settings).playbackCleanup world.threadRet
      else .ok (state.goto .settings)
  | .settings =>
      if state.app.playerMode = .freed ∧ state.app.pianoparamChangePending = true then
        .ok (((state.withApp { state.app with
          pianoparamChangePending := false }).changePianoSettings world.initialises).goto .login)
      else .ok (state.goto .login)
  | .login =>
      if state.app.retryLoginTime ≠ 0 ∧ state.app.retryLoginTime < world.world.now then
        -- Nobody is answered: no connection has the number.
        (state.goto .ready).serve fun server =>
          server.setPandoraUser world.world server.app.contexts.length
      else .ok (state.goto .ready)
  | .ready => state.startUp
  | .fetch => state.fetch world
  | .launch newList => state.launch world.streams newList
  | .announce newList => state.announce world.world newList
  | .monitor =>
      if PlayerMode.samplesizeInitialized.level ≤ state.app.playerMode.level ∧
          state.app.playerMode.level < PlayerMode.finishedPlayback.level then
        (state.goto .expire).checkPlayerStatus world
      else .ok (state.goto .expire)
  | .expire => .ok ((state.expire world.world.now).goto .service)
  | .service =>
      match (state.goto .cleanup).runService world.world crypt world.event with
      | .error fault => .error fault
      | .ok state => state.checkSignal world.world
  | .stopped => .ok state

/-- The player thread reaches a later stage, if there is one. -/
def advance (state : LoopState) (mode : PlayerMode) : LoopState :=
  if state.app.playerMode ≠ .freed ∧ state.app.playerMode.level < mode.level then
    state.withApp { state.app with playerMode := mode }
  else state

end LoopState

/-- What can happen: a section of the loop, progress of the player thread, or a signal. -/
inductive LoopAction where
  | proceed (world : LoopWorld)
  | advance (mode : PlayerMode)
  | signal

namespace LoopState

def step (crypt : Text → Text → Text) (state : LoopState) :
    LoopAction → Except LoopFault LoopState
  | .proceed world => state.proceed crypt world
  | .advance mode => .ok (state.advance mode)
  | .signal => .ok { state with shutdownSignalled := true }

/-- The state in which the loop is entered: nothing has been played yet. -/
def initial (app : Application) : LoopState where
  app := { app with
    playlist := []
    currentSong := none
    songHistory := []
    playbackState := .paused
    pausedSince := 0
    playerMode := .freed
    doQuit := false
    doPause := false
    stalled := false
    stallSample := 0
    stallSampleTime := 0
    settings := { app.settings with historyLength := 5 } }
  point := .cleanup
  playlistRetrieved := 0
  broadcastStatus := false
  playerSoftErrors := 0
  quitInitiated := false
  shutdownSignalled := false
  nextSong := 0
  freed := []

end LoopState

end Pianod
