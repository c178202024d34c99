import Pianod.Server.Application

/-!
# Station commands

The handlers below change the station list of the Pandora account.  Each changes the local records
before, while or after it asks the server, and answers from several places.
-/

namespace Pianod

open Foundation

/-- The four ways of changing the mix. -/
inductive MixCommand where
  | set
  | add
  | drop
  | toggle
deriving DecidableEq, Repr

/-- A station's mix flag after it was named in a command. -/
def MixCommand.flag (command : MixCommand) (old : Bool) : Bool :=
  match command with
  | .set | .add => true
  | .drop => false
  | .toggle => !old

namespace StationState

/-- The record answers to a name. -/
def answers (name : Text) (cell : StationCell) : Bool :=
  Text.strcasecmp cell.station.name name = .eq

/-- Change the mix flag of the record found under a name. -/
def setMix (stations : List StationCell) (name : Text) (flag : Bool) : List StationCell :=
  modifyFirst (answers name)
    (fun cell => { cell with station := { cell.station with useQuickMix := flag } }) stations

/-- Go through the names of a mix command; count the changed flags. -/
def applyMix (command : MixCommand) :
    List Text → List StationCell → Nat → Except Fault (List StationCell × Nat)
  | [], stations, changes => .ok (stations, changes)
  | name :: names, stations, changes =>
      match pianoFindStationByName stations name with
      | none => .error (.assertion "station")
      | some cell =>
          if cell.station.isQuickMix then .error (.assertion "!station->isQuickMix")
          else
            let flag := command.flag cell.station.useQuickMix
            applyMix command names (setMix stations name flag)
              (if flag = cell.station.useQuickMix then changes else changes + 1)

/-- Exclude every station from the mix. -/
def clearMix (stations : List StationCell) : List StationCell :=
  stations.map fun cell => { cell with station := { cell.station with useQuickMix := false } }

end StationState

namespace Server

/-- Replace the station list and the selection. -/
def withStations (server : Server) (state : StationState) : Server :=
  server.withApp { server.app with stationState := state }

@[simp]
theorem withStations_app (server : Server) (state : StationState) :
    (server.withStations state).app = { server.app with stationState := state } := rfl

@[simp]
theorem withStations_sent (server : Server) (state : StationState) :
    (server.withStations state).sent = server.sent := rfl

/-- Check that the stations of a list exist and can be in the mix; send details if not. -/
def validateStationList (server : Server) (session : Nat) (names : List Text) : Server × Bool :=
  let details := names.flatMap fun name =>
    match pianoFindStationByName server.app.stationState.stations name with
    | some cell => if cell.station.isQuickMix then [.iStationInvalid] else []
    | none => [.iNotFound]
  (server.send (.connection session) details, details.isEmpty)

/-- Find a station by name; without one, take the selected station if it is the one playing. -/
def getStationByNameOrCurrent (server : Server) (session : Nat) (name : Option Text) :
    Except Fault (Server × Option StationCell) :=
  let state := server.app.stationState
  match name with
  | some name =>
      match pianoFindStationByName state.stations name with
      | some cell => .ok (server, some cell)
      | none => .ok (server.reply session .eNotFound, none)
  | none =>
      match state.selectedCell, server.app.currentSong with
      | .error fault, some _ => .error fault
      | .ok (some cell), some song =>
          if Text.strcmp song.stationId cell.station.id = .eq then .ok (server, some cell)
          else .ok (server.reply session .eConflict, none)
      | _, _ => .ok (server.reply session .eWrongState, none)

variable (world : World)

/-- Take possession of a station, if not already owned. -/
def pwnStation (server : Server) (session : Nat) (stationId : Text) : Server × Bool :=
  match pianoFindStationById server.app.stationState.stations stationId with
  | none => (server.reply session .iNotFound, false)
  | some cell =>
      if server.app.isCreator cell.address then (server, true)
      else
        match server.pianoTransaction world none .transformStation with
        | (server, false) => (server.reply session .eTransformFailed, false)
        | (server, true) =>
            let owned := { server.app with
              isCreator := Function.update server.app.isCreator cell.address true }
            ((server.withApp owned).reply session .iServerStatus, true)

/-- Set, add, remove, or toggle stations in the mix. -/
def manipulateQuickmix (server : Server) (command : MixCommand) (names : List Text) :
    Except Fault (Server × ResponseCode) :=
  let state := server.app.stationState
  let (stations, changes) :=
    if command = .set then (StationState.clearMix state.stations, 2) else (state.stations, 0)
  match StationState.applyMix command names stations changes with
  | .error fault => .error fault
  | .ok (stations, changes) =>
      let server := server.withStations { state with stations := stations }
      if 0 < changes then
        match server.pianoTransaction world none .setQuickmix with
        | (server, true) => .ok ((server.sendResponse .iMixChanged).announceAction, .sOk)
        | (server, false) => .ok (server, .eNak)
      else .ok (server, .sOk)

/-- Rename the last station to a desired name. -/
def renameNewStation (server : Server) (session : Nat) (toName : Option Text) : Server :=
  match toName, server.app.stationState.stations.getLast? with
  | some toName, some station =>
      match server.pwnStation world session station.station.id with
      | (server, false) => server
      | (server, true) =>
          match server.pianoTransaction world none .renameStation with
          | (server, true) =>
              server.withStations (server.app.stationState.rename station.address toName)
          | (server, false) => server.reply session .eIncomplete
  | _, _ => server

/-- Create a station, and name it if a name is given. -/
def createStation (server : Server) (session : Nat) (name : Option Text) : Server :=
  match server.pianoTransaction world (some session) .createStation with
  | (server, false) => server
  | (server, true) =>
      let state := server.app.stationState
      let created := { server.app with
        stationState := state.insertCreated world.createdStation.1
        isCreator := Function.update server.app.isCreator state.nextAddress world.createdStation.2 }
      (((server.withApp created).renameNewStation world session name).sendResponse
        .iStationsChanged).announceAction

def createStationFromShared (server : Server) (session : Nat) (name : Option Text)
    (stationId : Text) : Server :=
  if stationId.all isdigit then server.createStation world session name
  else server.reply session .eInvalid

/-- Whether an identifier is that of a song, an artist or a genre suggestion. -/
def isSuggestion (suggestionId : Text) : Bool :=
  match suggestionId with
  | [] => false
  | kind :: _ => kind ∈ ascii "SAG"

def createStationFromSuggestion (server : Server) (session : Nat) (name : Option Text)
    (suggestionId : Text) : Server :=
  if isSuggestion suggestionId then server.createStation world session name
  else server.reply session .eInvalid

def renameStation (server : Server) (session : Nat) (fromName toName : Text) :
    Except Fault Server :=
  match pianoFindStationByName server.app.stationState.stations fromName with
  -- The handler replies that there is no such station and goes on.
  | none => .error .nullDereference
  | some station =>
      match server.pwnStation world session station.station.id with
      | (server, false) => .ok server
      | (server, true) =>
          match server.pianoTransaction world (some session) .renameStation with
          | (server, false) => .ok server
          | (server, true) =>
              let renamed := server.app.stationState.rename station.address toName
              .ok ((server.withStations renamed).sendResponse .iStationsChanged).announceAction

def deleteStation (server : Server) (session : Nat) (name : Text) : Server :=
  match pianoFindStationByName server.app.stationState.stations name with
  | none => server.reply session .eNotFound
  | some station =>
      let state := server.app.stationState
      let deselected :=
        if state.selectedStation = some station.address then
          { state with selectedStation := none }
        else state
      match (server.withStations deselected).pianoTransaction world (some session)
          .deleteStation with
      | (server, false) => server
      | (server, true) =>
          let remaining := { server.app.stationState with
            stations := pianoListDelete server.app.stationState.stations station.address }
          ((server.withStations remaining).sendResponse .iStationsChanged).announceAction

/-- Change the mix by a list of names, if they are all valid. -/
def changeMix (server : Server) (session : Nat) (command : MixCommand) (names : List Text) :
    Except Fault Server :=
  match server.validateStationList session names with
  | (server, false) => .ok (server.reply session .eNotFound)
  | (server, true) =>
      match server.manipulateQuickmix world command names with
      | .error fault => .error fault
      | .ok (server, response) => .ok (server.reply session response)

/-- The lines that announce the differences between two station lists. -/
def stationChanges (old new : List StationCell) : List ResponseCode :=
  let listed (stations : List StationCell) (cell : StationCell) : Bool :=
    (pianoFindStationById stations cell.station.id).isSome
  let mixed (stations : List StationCell) (cell : StationCell) : Bool :=
    match pianoFindStationById stations cell.station.id with
    | some other => other.station.useQuickMix != cell.station.useQuickMix
    | none => cell.station.useQuickMix
  (if old.all (listed new) && new.all (listed old) then [] else [.iStationsChanged]) ++
    if old.any (mixed new) || new.any (mixed old) then [.iMixChanged] else []

/-- Get the station list, or refresh it once it has expired. -/
def updateStationList (server : Server) : Except Fault Server :=
  let app := server.app
  if world.now ≤ app.updateStationList then .ok server
  else
    match server.pianoTransaction world none .getStations with
    | (server, false) =>
        .ok (server.withApp { server.app with updateStationList := world.now +
          if app.stationState.stations.isEmpty then 60 else 300 })
    | (server, true) =>
        let old := app.stationState
        match old.updateStationList false (some (world.stationList.map (·.1))) with
        | .error fault => .error fault
        | .ok new =>
            let creators := fun address =>
              match world.stationList[address - old.nextAddress]? with
              | some entry => if old.nextAddress ≤ address then entry.2 else app.isCreator address
              | none => app.isCreator address
            let refreshed := { server.app with
              stationState := new
              isCreator := creators
              updateStationList := world.now + if new.stations.isEmpty then 60 else 300 }
            let told := (server.withApp refreshed).send .service
              (stationChanges old.stations new.stations)
            .ok (if old.selectedStation.isSome && new.selectedStation.isNone then
              told.send .service [.eResource, .iSelectedStationNone]
            else told)

end Server

end Pianod
