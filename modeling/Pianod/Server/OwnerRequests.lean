import Pianod.Server.Commands

/-!
# What the owner's commands ask for

Some commands of the owner ask the Pandora server for more than one thing, one after the other.
Here the requests are given with their data, in the order in which they are sent.  Those that only
refresh the cached details of a station are left out.
-/

namespace Pianod

open Foundation

/-- What a token stands for when a station is created. -/
inductive MusicType where
  | invalid
  | song
  | artist
deriving DecidableEq, Repr

/-- The requests of the owner's commands, with what is sent along. -/
inductive OwnerRequest where
  | createStation (token : Text) (type : MusicType)
  | renameStation (station : StationCell) (newName : Text)
  | transformStation (station : StationCell)
  | search (searchStr : Text)
  | addSeed (station : StationCell) (musicId : Text)
  | deleteSeed (artist : Option PianoArtist) (song : Option PianoSong)
deriving DecidableEq, Repr

/-- A request without its data. -/
def OwnerRequest.kind : OwnerRequest → PianoRequest
  | .createStation .. => .createStation
  | .renameStation .. => .renameStation
  | .transformStation _ => .transformStation
  | .search _ => .search
  | .addSeed .. => .addSeed
  | .deleteSeed .. => .deleteSeed

namespace Server

/-- The requests for owning a station. -/
def pwnStationRequests (server : Server) (stationId : Text) : List OwnerRequest :=
  match pianoFindStationById server.app.stationState.stations stationId with
  | none => []
  | some cell => if server.app.isCreator cell.address then [] else [.transformStation cell]

variable (world : World)

/-- The requests for renaming the last station. -/
def renameNewStationRequests (server : Server) (session : Nat) (toName : Option Text) :
    List OwnerRequest :=
  match toName, server.app.stationState.stations.getLast? with
  | some toName, some station =>
      server.pwnStationRequests station.station.id ++
        match server.pwnStation world session station.station.id with
        | (_, false) => []
        | (_, true) => [.renameStation station toName]
  | _, _ => []

/-- The state after a station was created. -/
def withCreated (server : Server) : Server :=
  let state := server.app.stationState
  server.withApp { server.app with
    stationState := state.insertCreated world.createdStation.1
    isCreator := Function.update server.app.isCreator state.nextAddress world.createdStation.2 }

def createStationRequests (server : Server) (session : Nat) (name : Option Text) (token : Text)
    (type : MusicType) : List OwnerRequest :=
  .createStation token type ::
    match server.pianoTransaction world (some session) .createStation with
    | (_, false) => []
    | (server, true) => (server.withCreated world).renameNewStationRequests world session name

def createStationFromSongRequests (server : Server) (session : Nat) (name : Option Text)
    (artist : Bool) (songId : Option Text) : List OwnerRequest :=
  match server.getSongByIdOrCurrent session songId with
  | (_, none) => []
  | (server, some (_, song)) =>
      server.createStationRequests world session name song.trackToken
        (if artist then .artist else .song)

def createStationFromSharedRequests (server : Server) (session : Nat) (name : Option Text)
    (stationId : Text) : List OwnerRequest :=
  if stationId.all isdigit then server.createStationRequests world session name stationId .invalid
  else []

/-- The first letter of the id tells what is suggested; it is not sent. -/
def createStationFromSuggestionRequests (server : Server) (session : Nat) (name : Option Text)
    (suggestionId : Text) : List OwnerRequest :=
  if isSuggestion suggestionId then
    server.createStationRequests world session name suggestionId.tail .invalid
  else []

def renameStationRequests (server : Server) (session : Nat) (fromName toName : Text) :
    Except Fault (List OwnerRequest) :=
  match pianoFindStationByName server.app.stationState.stations fromName with
  | none => .error .nullDereference
  | some station =>
      .ok (server.pwnStationRequests station.station.id ++
        match server.pwnStation world session station.station.id with
        | (_, false) => []
        | (_, true) => [.renameStation station toName])

def addSeedRequests (server : Server) (session : Nat) (stationName : Option Text)
    (suggestionId : Text) : Except Fault (List OwnerRequest) :=
  match server.getStationByNameOrCurrent session stationName with
  | .error fault => .error fault
  | .ok (_, none) => .ok []
  | .ok (server, some station) =>
      .ok (if isSuggestion suggestionId then
        server.pwnStationRequests station.station.id ++
          match server.pwnStation world session station.station.id with
          | (_, false) => []
          | (_, true) => [.addSeed station suggestionId.tail]
      else [])

/-- The station that gets a song's seed. -/
def seededStation (server : Server) (stationName : Option Text) (song : PianoSong) :
    Option StationCell :=
  match stationName with
  | some name => pianoFindStationByName server.app.stationState.stations name
  | none => pianoFindStationById server.app.stationState.stations song.stationId

/-- The id that a search for a song, or for its artist, comes to. -/
def foundMusicId (artist : Bool) (song : PianoSong) : Option Text :=
  if artist then (findArtistByName world.searchResult.artists song.artist).bind (·.musicId)
  else (findSongByArtistAndTitle world.searchResult.songs song.artist song.title).bind (·.musicId)

def addSongSeedRequests (server : Server) (session : Nat) (stationName : Option Text)
    (artist : Bool) (songId : Option Text) : List OwnerRequest :=
  match server.getSongByIdOrCurrent session songId with
  | (_, none) => []
  | (server, some (_, song)) =>
      match server.seededStation stationName song with
      | none => []
      | some station =>
          server.pwnStationRequests station.station.id ++
            match server.pwnStation world session station.station.id with
            | (_, false) => []
            | (server, true) =>
                .search (if artist then song.artist else song.title) ::
                  match server.pianoTransaction world none .search with
                  | (_, false) => []
                  | (_, true) =>
                      ((foundMusicId world artist song).map (OwnerRequest.addSeed station)).toList

/-- The artist seed that a song stands for. -/
def artistSeedBySong (server : Server) (song : PianoSong) : Option PianoArtist :=
  (server.app.cachedStation song.stationId).bind fun item =>
    findArtistByName item.info.artistSeeds song.artist

def removeSongSeedRequests (server : Server) (session : Nat) (artist : Bool)
    (songId : Option Text) : List OwnerRequest :=
  match server.getSongByIdOrCurrent session songId with
  | (_, none) => []
  | (server, some (_, song)) =>
      if artist then
        ((server.artistSeedBySong song).map fun seed => .deleteSeed (some seed) none).toList
      else if song.seedId.isNone then []
      else [.deleteSeed none (some song)]

end Server

/-- The calls that the dispatcher makes for those commands. -/
inductive OwnerCall where
  | createStationFromSong (name : Option Text) (artist : Bool) (songId : Option Text)
  | createStationFromShared (name : Option Text) (stationId : Text)
  | createStationFromSuggestion (name : Option Text) (suggestionId : Text)
  | renameStation (fromName toName : Text)
  | addSeed (stationName : Option Text) (suggestionId : Text)
  | addSongSeed (stationName : Option Text) (artist : Bool) (songId : Option Text)
  | removeSongSeed (artist : Bool) (songId : Option Text)
deriving DecidableEq, Repr

namespace OwnerCall

variable (world : World) (server : Server) (session : Nat)

/-- The requests of a call. -/
def requests : OwnerCall → Except Fault (List OwnerRequest)
  | createStationFromSong name artist songId =>
      .ok (server.createStationFromSongRequests world session name artist songId)
  | createStationFromShared name stationId =>
      .ok (server.createStationFromSharedRequests world session name stationId)
  | createStationFromSuggestion name suggestionId =>
      .ok (server.createStationFromSuggestionRequests world session name suggestionId)
  | renameStation fromName toName => server.renameStationRequests world session fromName toName
  | addSeed stationName suggestionId =>
      server.addSeedRequests world session stationName suggestionId
  | addSongSeed stationName artist songId =>
      .ok (server.addSongSeedRequests world session stationName artist songId)
  | removeSongSeed artist songId => .ok (server.removeSongSeedRequests session artist songId)

/-- What a call does. -/
def execute : OwnerCall → Except Fault Server
  | createStationFromSong name _ songId =>
      .ok (server.createStationFromSong world session name songId)
  | createStationFromShared name stationId =>
      .ok (server.createStationFromShared world session name stationId)
  | createStationFromSuggestion name suggestionId =>
      .ok (server.createStationFromSuggestion world session name suggestionId)
  | renameStation fromName toName => server.renameStation world session fromName toName
  | addSeed stationName suggestionId => server.addSeed world session stationName suggestionId
  | addSongSeed stationName artist songId =>
      .ok (server.addSongSeed world session stationName artist songId)
  | removeSongSeed artist songId => .ok (server.removeSongSeed world session artist songId)

end OwnerCall

/-! ## No other requests -/

/-- The same outside world, but for the outcomes of requests. -/
def World.withFailure (world : World) (failure : PianoRequest → Option TransactionFailure) :
    World :=
  { world with failure := failure }

namespace Server

variable {world : World} {failure : PianoRequest → Option TransactionFailure} {session : Nat}
  {server : Server}

theorem pianoTransaction_withFailure {request : PianoRequest}
    (same : failure request = world.failure request) (server : Server) (event : Option Nat) :
    server.pianoTransaction (world.withFailure failure) event request =
      server.pianoTransaction world event request := by
  unfold pianoTransaction barUiPianoCall
  rw [show (world.withFailure failure).failure request = world.failure request from same]

section

variable (refreshes : ∀ stationId,
  failure (.getStationInfo stationId) = world.failure (.getStationInfo stationId))

include refreshes

private theorem getStationInfo_withFailure (server : Server) (stationId : Text) :
    server.getStationInfo (world.withFailure failure) stationId =
      server.getStationInfo world stationId := by
  unfold getStationInfo
  rw [pianoTransaction_withFailure (refreshes stationId)]
  rfl

private theorem applyStationInfoToSongs_withFailure (songs : List PianoSong) (server : Server) :
    server.applyStationInfoToSongs (world.withFailure failure) songs =
      server.applyStationInfoToSongs world songs := by
  induction songs generalizing server with
  | nil => rfl
  | cons song songs ih =>
      simp only [applyStationInfoToSongs, ih, getStationInfo_withFailure refreshes]

private theorem applyStationInfo_withFailure (server : Server) :
    server.applyStationInfo (world.withFailure failure) = server.applyStationInfo world := by
  simp only [applyStationInfo, applyStationInfoToSongs_withFailure refreshes]

theorem expireStationInfo_withFailure (server : Server) (stationId : Text) :
    server.expireStationInfo (world.withFailure failure) stationId =
      server.expireStationInfo world stationId := by
  simp only [expireStationInfo, applyStationInfo_withFailure refreshes]

theorem expireStationInfoBySong_withFailure (server : Server) (place : SongPlace)
    (song : PianoSong) :
    server.expireStationInfoBySong (world.withFailure failure) place song =
      server.expireStationInfoBySong world place song := by
  simp only [expireStationInfoBySong, expireStationInfo_withFailure refreshes]

end

/-- Requests end as before. -/
def Unchanged (world : World) (failure : PianoRequest → Option TransactionFailure)
    (requests : List OwnerRequest) : Prop :=
  ∀ request ∈ requests, failure request.kind = world.failure request.kind

private theorem pwnStation_withFailure {stationId : Text}
    (unchanged : Unchanged world failure (server.pwnStationRequests stationId)) :
    server.pwnStation (world.withFailure failure) session stationId =
      server.pwnStation world session stationId := by
  unfold pwnStation
  unfold pwnStationRequests at unchanged
  cases found : pianoFindStationById server.app.stationState.stations stationId with
  | none => rfl
  | some cell =>
      rw [found] at unchanged
      by_cases owned : server.app.isCreator cell.address
      · simp only [owned, if_true]
      · simp only [owned] at unchanged ⊢
        have transform : failure .transformStation = world.failure .transformStation :=
          unchanged (.transformStation cell) List.mem_cons_self
        rw [pianoTransaction_withFailure transform]

/-- What is done after owning a station depends on the outcomes of its requests only. -/
theorem unchanged_of_pwned {stationId : Text} {requests : Server → List OwnerRequest}
    (unchanged : Unchanged world failure (server.pwnStationRequests stationId ++
      match server.pwnStation world session stationId with
      | (_, false) => []
      | (server, true) => requests server)) :
    server.pwnStation (world.withFailure failure) session stationId =
        server.pwnStation world session stationId ∧
      ∀ owner, server.pwnStation world session stationId = (owner, true) →
        Unchanged world failure (requests owner) := by
  refine ⟨pwnStation_withFailure fun request member => unchanged request
    (List.mem_append_left _ member), fun owner owned request member => ?_⟩
  rw [owned] at unchanged
  exact unchanged request (List.mem_append_right _ member)

private theorem renameNewStation_withFailure {toName : Option Text}
    (unchanged : Unchanged world failure (server.renameNewStationRequests world session toName)) :
    server.renameNewStation (world.withFailure failure) session toName =
      server.renameNewStation world session toName := by
  unfold renameNewStation
  unfold renameNewStationRequests at unchanged
  cases toName with
  | none => rfl
  | some toName =>
      cases last : server.app.stationState.stations.getLast? with
      | none => rfl
      | some station =>
          rw [last] at unchanged
          obtain ⟨same, renames⟩ := unchanged_of_pwned unchanged
          simp only [same]
          cases pwned : server.pwnStation world session station.station.id with
          | mk owner owned =>
              cases owned with
              | false => rfl
              | true =>
                  have rename : failure .renameStation = world.failure .renameStation :=
                    renames owner pwned (.renameStation station toName) List.mem_cons_self
                  simp only [pianoTransaction_withFailure rename]

theorem createStation_withFailure {name : Option Text} {token : Text} {type : MusicType}
    (unchanged : Unchanged world failure
      (server.createStationRequests world session name token type)) :
    server.createStation (world.withFailure failure) session name =
      server.createStation world session name := by
  have create : failure .createStation = world.failure .createStation :=
    unchanged (.createStation token type) List.mem_cons_self
  have renames := fun request member => unchanged request (List.mem_cons_of_mem _ member)
  unfold createStation
  rw [pianoTransaction_withFailure create]
  cases transaction : server.pianoTransaction world (some session) .createStation with
  | mk next created =>
      cases created with
      | false => rfl
      | true =>
          rw [transaction] at renames
          have named := renameNewStation_withFailure renames
          unfold withCreated at named
          simp only [World.withFailure] at named ⊢
          rw [named]

private theorem createStationFromSong_withFailure {name songId : Option Text} {artist : Bool}
    (unchanged : Unchanged world failure
      (server.createStationFromSongRequests world session name artist songId)) :
    server.createStationFromSong (world.withFailure failure) session name songId =
      server.createStationFromSong world session name songId := by
  unfold createStationFromSong
  unfold createStationFromSongRequests at unchanged
  split
  · rfl
  · rename_i next found located
    rw [located] at unchanged
    exact createStation_withFailure unchanged

private theorem createStationFromShared_withFailure {name : Option Text} {stationId : Text}
    (unchanged : Unchanged world failure
      (server.createStationFromSharedRequests world session name stationId)) :
    server.createStationFromShared (world.withFailure failure) session name stationId =
      server.createStationFromShared world session name stationId := by
  unfold createStationFromShared
  unfold createStationFromSharedRequests at unchanged
  split
  · rename_i digits
    rw [if_pos digits] at unchanged
    exact createStation_withFailure unchanged
  · rfl

private theorem createStationFromSuggestion_withFailure {name : Option Text} {suggestionId : Text}
    (unchanged : Unchanged world failure
      (server.createStationFromSuggestionRequests world session name suggestionId)) :
    server.createStationFromSuggestion (world.withFailure failure) session name suggestionId =
      server.createStationFromSuggestion world session name suggestionId := by
  unfold createStationFromSuggestion
  unfold createStationFromSuggestionRequests at unchanged
  split
  · rename_i suggested
    rw [if_pos suggested] at unchanged
    exact createStation_withFailure unchanged
  · rfl

private theorem renameStation_withFailure {fromName toName : Text} {requests : List OwnerRequest}
    (sent : server.renameStationRequests world session fromName toName = .ok requests)
    (unchanged : Unchanged world failure requests) :
    server.renameStation (world.withFailure failure) session fromName toName =
      server.renameStation world session fromName toName := by
  unfold renameStation
  unfold renameStationRequests at sent
  split
  · rfl
  · rename_i station found
    rw [found] at sent
    cases sent
    obtain ⟨same, renames⟩ := unchanged_of_pwned unchanged
    rw [same]
    cases pwned : server.pwnStation world session station.station.id with
    | mk owner owned =>
        cases owned with
        | false => rfl
        | true =>
            have rename : failure .renameStation = world.failure .renameStation :=
              renames owner pwned (.renameStation station toName) List.mem_cons_self
            simp only [pianoTransaction_withFailure rename]

section

variable (refreshes : ∀ stationId,
  failure (.getStationInfo stationId) = world.failure (.getStationInfo stationId))

include refreshes

theorem addSeedTo_withFailure (adds : failure .addSeed = world.failure .addSeed)
    (server : Server) (stationId : Text) :
    server.addSeedTo (world.withFailure failure) session stationId =
      server.addSeedTo world session stationId := by
  simp only [addSeedTo, pianoTransaction_withFailure adds, expireStationInfo_withFailure refreshes]

private theorem addSeed_withFailure {stationName : Option Text} {suggestionId : Text}
    {requests : List OwnerRequest}
    (sent : server.addSeedRequests world session stationName suggestionId = .ok requests)
    (unchanged : Unchanged world failure requests) :
    server.addSeed (world.withFailure failure) session stationName suggestionId =
      server.addSeed world session stationName suggestionId := by
  unfold addSeed
  unfold addSeedRequests at sent
  split
  · rfl
  · rfl
  · rename_i next station found
    rw [found] at sent
    cases sent
    split
    · rename_i suggested
      rw [if_pos suggested] at unchanged
      obtain ⟨same, seeds⟩ := unchanged_of_pwned unchanged
      rw [same]
      cases pwned : next.pwnStation world session station.station.id with
      | mk owner owned =>
          cases owned with
          | false => rfl
          | true =>
              have adds : failure .addSeed = world.failure .addSeed :=
                seeds owner pwned (.addSeed station suggestionId.tail) List.mem_cons_self
              simp only [addSeedTo_withFailure refreshes adds]
    · rfl

omit refreshes in
theorem addSongSeed_eq (stationName : Option Text) (artist : Bool) (songId : Option Text) :
    server.addSongSeed world session stationName artist songId =
      match server.getSongByIdOrCurrent session songId with
      | (server, none) => server
      | (server, some (_, song)) =>
          match server.seededStation stationName song with
          | none => server.reply session .eNotFound
          | some station =>
              match server.pwnStation world session station.station.id with
              | (server, false) => server
              | (server, true) =>
                  match server.pianoTransaction world none .search with
                  | (server, false) => server.reply session .eNak
                  | (server, true) =>
                      match foundMusicId world artist song with
                      | none => server.reply session .eNak
                      | some _ => server.addSeedTo world session station.station.id := by
  cases stationName <;> rfl

private theorem addSongSeed_withFailure {stationName songId : Option Text} {artist : Bool}
    (unchanged : Unchanged world failure
      (server.addSongSeedRequests world session stationName artist songId)) :
    server.addSongSeed (world.withFailure failure) session stationName artist songId =
      server.addSongSeed world session stationName artist songId := by
  rw [addSongSeed_eq, addSongSeed_eq]
  unfold addSongSeedRequests at unchanged
  split
  · rfl
  · rename_i next place song located
    rw [located] at unchanged
    split
    · rfl
    · rename_i station seeded
      simp only [seeded] at unchanged
      obtain ⟨same, seeds⟩ := unchanged_of_pwned unchanged
      rw [same]
      split
      · rfl
      · rename_i owner pwned
        have searches := seeds owner pwned
        have search : failure .search = world.failure .search :=
          searches (.search _) List.mem_cons_self
        rw [pianoTransaction_withFailure search]
        split
        · rfl
        · rename_i transaction
          rw [transaction] at searches
          have identified : foundMusicId (world.withFailure failure) artist song =
            foundMusicId world artist song := rfl
          rw [identified]
          split
          · rfl
          · rename_i musicId known
            rw [known] at searches
            have adds : failure .addSeed = world.failure .addSeed :=
              searches (.addSeed station musicId) (List.mem_cons_of_mem _ List.mem_cons_self)
            exact addSeedTo_withFailure refreshes adds _ _

private theorem removeSongSeed_withFailure {songId : Option Text} {artist : Bool}
    (unchanged : Unchanged world failure
      (server.removeSongSeedRequests session artist songId)) :
    server.removeSongSeed (world.withFailure failure) session artist songId =
      server.removeSongSeed world session artist songId := by
  unfold removeSongSeed
  unfold removeSongSeedRequests artistSeedBySong at unchanged
  split
  · rfl
  · rename_i next place song located
    rw [located] at unchanged
    have deletes (delete : failure .deleteSeed = world.failure .deleteSeed) :=
      pianoTransaction_withFailure delete next (some session)
    cases artist with
    | true =>
        cases found : (next.app.cachedStation song.stationId).bind fun item =>
          findArtistByName item.info.artistSeeds song.artist with
        | none => simp only [Option.isNone_none, if_true]
        | some seed =>
            simp only [if_true] at unchanged
            rw [found] at unchanged
            have same := deletes (unchanged (.deleteSeed (some seed) none) List.mem_cons_self)
            simp only [Option.isNone_some, same,
              expireStationInfoBySong_withFailure refreshes]
    | false =>
        simp only [Bool.false_eq_true, if_false] at unchanged ⊢
        split
        · rfl
        · rename_i seeded
          rw [if_neg seeded] at unchanged
          have same := deletes (unchanged (.deleteSeed none (some song)) List.mem_cons_self)
          simp only [same, expireStationInfoBySong_withFailure refreshes]

end

end Server

/-- What a call does depends on the outcomes of some requests only, and of those that refresh the
cached details. -/
def OwnerCall.DependsOn (call : OwnerCall) (world : World) (server : Server) (session : Nat)
    (requests : List OwnerRequest) : Prop :=
  ∀ failure, (∀ stationId,
    failure (.getStationInfo stationId) = world.failure (.getStationInfo stationId)) →
    Server.Unchanged world failure requests →
      call.execute (world.withFailure failure) server session = call.execute world server session

/-- The requests of a call are all that it depends on. -/
theorem OwnerCall.dependsOn_requests {world : World} {server : Server} {session : Nat}
    {call : OwnerCall} {requests : List OwnerRequest}
    (sent : call.requests world server session = .ok requests) :
    call.DependsOn world server session requests := by
  intro failure refreshes unchanged
  cases call with
  | createStationFromSong name artist songId =>
      cases sent
      exact congrArg Except.ok (Server.createStationFromSong_withFailure unchanged)
  | createStationFromShared name stationId =>
      cases sent
      exact congrArg Except.ok (Server.createStationFromShared_withFailure unchanged)
  | createStationFromSuggestion name suggestionId =>
      cases sent
      exact congrArg Except.ok (Server.createStationFromSuggestion_withFailure unchanged)
  | renameStation fromName toName => exact Server.renameStation_withFailure sent unchanged
  | addSeed stationName suggestionId => exact Server.addSeed_withFailure refreshes sent unchanged
  | addSongSeed stationName artist songId =>
      cases sent
      exact congrArg Except.ok (Server.addSongSeed_withFailure refreshes unchanged)
  | removeSongSeed artist songId =>
      cases sent
      exact congrArg Except.ok (Server.removeSongSeed_withFailure refreshes unchanged)

end Pianod
