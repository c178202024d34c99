import Pianod.Foundation.Strtol
import Pianod.Server.StationCommands

/-!
# Songs, seeds and searches

Tracks are found by their ids in the history, in the queue, or as the current song.  Details about
the seeds and the feedback of a station are cached for a few hours and copied into the tracks.
-/

namespace Pianod

open Foundation

/-- Where a track is held. -/
inductive SongPlace where
  | history (index : Nat)
  | playlist (index : Nat)
  | current
deriving DecidableEq, Repr

/-- The four ways of rating a song. -/
inductive RateCommand where
  | love
  | hate
  | neutral
  | overplayed
deriving DecidableEq, Repr

/-- What a search is to show. -/
inductive SuggestionKind where
  | any
  | song
  | artist
  | genre
deriving DecidableEq, Repr

namespace Application

def songAt (app : Application) : SongPlace → Option PianoSong
  | .history index => app.songHistory[index]?
  | .playlist index => app.playlist[index]?
  | .current => app.currentSong

def modifySong (app : Application) (place : SongPlace) (change : PianoSong → PianoSong) :
    Application :=
  match place with
  | .history index => { app with songHistory := app.songHistory.modify index change }
  | .playlist index => { app with playlist := app.playlist.modify index change }
  | .current => { app with currentSong := app.currentSong.map change }

/-- libpiano's search of a list of tracks. -/
def pianoFindSongById (songs : List PianoSong) (songId : Text) : Option Nat :=
  songs.findIdx? fun song => Text.strcmp song.trackToken songId = .eq

/-- Find a track in the history, the queue, or the current song. -/
def findSong (app : Application) (songId : Text) : Option SongPlace :=
  match pianoFindSongById app.songHistory songId, pianoFindSongById app.playlist songId with
  | some index, _ => some (.history index)
  | none, some index => some (.playlist index)
  | none, none =>
      if (pianoFindSongById app.currentSong.toList songId).isSome then some .current else none

/-- The cached details of a station. -/
def cachedStation (app : Application) (stationId : Text) : Option StationInfoCache :=
  app.stationInfoCache.find? fun item => Text.strcmp item.stationId stationId = .eq

/-- Change the cached details of a station. -/
def modifyCache (app : Application) (stationId : Text)
    (change : StationInfoCache → StationInfoCache) : Application :=
  let changed := modifyFirst (fun item => Text.strcmp item.stationId stationId = .eq) change
    app.stationInfoCache
  { app with stationInfoCache := changed }

end Application

/-- Find a track in seeds or feedback by artist name and song title. -/
def findSongByArtistAndTitle (songs : List PianoSong) (artist title : Text) : Option PianoSong :=
  songs.find? fun song =>
    Text.strcmp song.artist artist = .eq && Text.strcmp song.title title = .eq

/-- A name with the first name in front is the one given with the surname in front. -/
def reversedName (name surnameFirst : Text) : Bool :=
  match afterFirst 44 surnameFirst with
  | none => false
  | some rest =>
      let first := rest.dropWhile (· == 32)
      first.isPrefixOf name &&
        match name.drop first.length with
        | [] => false
        | separator :: surname => separator == 32 && (surname ++ [44]).isPrefixOf surnameFirst

/-- Find an artist by name; tracks name classical artists with the surname in front. -/
def findArtistByName (artists : List PianoArtist) (name : Text) : Option PianoArtist :=
  artists.find? fun artist =>
    Text.strcmp artist.name name = .eq || reversedName artist.name name

namespace Server

/-- Find a song by its id, or take the current one. -/
def getSongByIdOrCurrent (server : Server) (session : Nat) (songId : Option Text) :
    Server × Option (SongPlace × PianoSong) :=
  match songId with
  | some songId =>
      match server.app.findSong songId with
      | none => (server.reply session .eNotFound, none)
      | some place => (server, (server.app.songAt place).map (place, ·))
  | none =>
      match server.app.currentSong with
      | none => (server.reply session .eWrongState, none)
      | some song => (server, some (.current, song))

/-- Queue and history; negative indexes in either refer to the other, zero to the current song. -/
def sendSongLists (server : Server) (session : Nat) (history : Bool) (index : Option Int) :
    Server :=
  let app := server.app
  match index with
  | none => server.sendSongList session (if history then app.songHistory else app.playlist)
  | some index =>
      if index = 0 then
        match app.currentSong with
        | none => server.reply session .eWrongState
        | some song => server.sendSongList session [song]
      else
        let songs := if history = decide (0 < index) then app.songHistory else app.playlist
        match songs[index.natAbs - 1]? with
        | none => server.reply session .eNotFound
        | some song =>
            ((((server.reply session .sData).sendSongInfo (.connection session)
              song).sendStationRating session).reply session .sDataEnd)

variable (world : World)

/-! ## Station details -/

def stationCacheTime : Nat := 10000

/-- Get station details from the cache, adding or refreshing the record as necessary. -/
def getStationInfo (server : Server) (stationId : Text) : Server × Option StationInfo :=
  let cached := server.app.cachedStation stationId
  let expired := match cached with
    | none => true
    | some item => item.retrieved + stationCacheTime < world.now
  if expired then
    match server.pianoTransaction world none (.getStationInfo stationId) with
    | (server, false) => (server, cached.map (·.info))
    | (server, true) =>
        let item : StationInfoCache := ⟨stationId, world.now, world.stationInfo stationId⟩
        let app := match cached with
          | none => { server.app with stationInfoCache := item :: server.app.stationInfoCache }
          | some _ => server.app.modifyCache stationId fun _ => item
        (server.withApp app, some item.info)
  else (server, cached.map (·.info))

/-- Copy seed and feedback ids from the details of a track's station. -/
def applyStationInfoToSongs (server : Server) : List PianoSong → Server × List PianoSong
  | [] => (server, [])
  | song :: songs =>
      match pianoFindStationById server.app.stationState.stations song.stationId with
      | none =>
          let (server, songs) := applyStationInfoToSongs server songs
          (server, song :: songs)
      | some cell =>
          let (server, details) := server.getStationInfo world cell.station.id
          let (server, songs) := applyStationInfoToSongs server songs
          match details with
          | none => (server, song :: songs)
          | some details =>
              let feedback := findSongByArtistAndTitle details.feedback song.artist song.title
              let seed := findSongByArtistAndTitle details.songSeeds song.artist song.title
              (server, { song with
                feedbackId := feedback.bind (·.feedbackId)
                seedId := seed.bind (·.seedId) } :: songs)

/-- Update the history, the current song and the queue with new station details. -/
def applyStationInfo (server : Server) : Server :=
  let (server, history) := server.applyStationInfoToSongs world server.app.songHistory
  let server := server.withApp { server.app with songHistory := history }
  let (server, current) := server.applyStationInfoToSongs world server.app.currentSong.toList
  let server := server.withApp { server.app with currentSong := current.head? }
  let (server, playlist) := server.applyStationInfoToSongs world server.app.playlist
  server.withApp { server.app with playlist := playlist }

/-- Refresh the details of a station, if they are cached. -/
def expireStationInfo (server : Server) (stationId : Text) : Server :=
  match server.app.cachedStation stationId with
  | none => server
  | some _ =>
      (server.withApp (server.app.modifyCache stationId fun item =>
        { item with retrieved := 0 })).applyStationInfo world

/-- Refresh the details of a song's station. -/
def expireStationInfoBySong (server : Server) (place : SongPlace) (song : PianoSong) : Server :=
  let server := server.expireStationInfo world song.stationId
  if place = .current then server.sendResponse .iRating else server

/-- Display station details such as seeds and feedback. -/
def sendStationInfo (server : Server) (session : Nat) (station : StationCell) : Server :=
  match server.getStationInfo world station.station.id with
  | (server, none) => server.reply session .eNak
  | (server, some info) =>
      let server := server.send (.connection session)
        (info.stationSeeds.flatMap fun _ => [.sData, .iId, .iStation, .iRating])
      (((server.sendArtists session info.artistSeeds true).sendDetails session info.feedback
        true).sendDetails session info.songSeeds true).reply session .sDataEnd

/-! ## Ratings and seeds -/

/-- Love, hate, or get sick of a song. -/
def rateSong (server : Server) (session : Nat) (command : RateCommand) (songId : Option Text) :
    Server :=
  match server.getSongByIdOrCurrent session songId with
  | (server, none) => server
  | (server, some (place, song)) =>
      match command with
      | .overplayed => (server.pianoTransaction world (some session) .addTiredSong).1
      | .neutral =>
          let server := server.applyStationInfo world
          let song := (server.app.songAt place).getD song
          if song.feedbackId.isNone then
            server.reply session (if song.rating = .none then .sOk else .eNak)
          else
            match server.pianoTransaction world (some session) .deleteFeedback with
            | (server, false) => server
            | (server, true) =>
                (server.withApp (server.app.modifySong place fun song =>
                  { song with rating := .none })).expireStationInfoBySong world place song
      | .love | .hate =>
          match server.pwnStation world session song.stationId with
          | (server, false) => server
          | (server, true) =>
              let rating := if command = .love then SongRating.love else .ban
              if rating = song.rating then server.reply session .sOk
              else
                match server.pianoTransaction world (some session) .rateSong with
                | (server, false) => server
                | (server, true) =>
                    (server.withApp (server.app.modifySong place fun song =>
                      { song with rating := rating })).expireStationInfoBySong world place song

/-- Remove the artist or song seed that a song stands for. -/
def removeSongSeed (server : Server) (session : Nat) (artist : Bool) (songId : Option Text) :
    Server :=
  match server.getSongByIdOrCurrent session songId with
  | (server, none) => server
  | (server, some (place, song)) =>
      let artistSeed := (server.app.cachedStation song.stationId).bind fun item =>
        findArtistByName item.info.artistSeeds song.artist
      if (if artist then artistSeed.isNone else song.seedId.isNone) then
        server.reply session .eInvalid
      else
        match server.pianoTransaction world (some session) .deleteSeed with
        | (server, false) => server
        | (server, true) => server.expireStationInfoBySong world place song

/-- Add a seed to a station, which has to be owned. -/
def addSeedTo (server : Server) (session : Nat) (stationId : Text) : Server :=
  match server.pianoTransaction world (some session) .addSeed with
  | (server, false) => server
  | (server, true) => server.expireStationInfo world stationId

/-- Add a seed by the id of a suggestion. -/
def addSeed (server : Server) (session : Nat) (stationName : Option Text) (suggestionId : Text) :
    Except Fault Server :=
  match server.getStationByNameOrCurrent session stationName with
  | .error fault => .error fault
  | .ok (server, none) => .ok server
  | .ok (server, some station) =>
      if isSuggestion suggestionId then
        match server.pwnStation world session station.station.id with
        | (server, false) => .ok server
        | (server, true) => .ok (server.addSeedTo world session station.station.id)
      else .ok (server.reply session .eInvalid)

/-- Add an artist or song seed directly from a song. -/
def addSongSeed (server : Server) (session : Nat) (stationName : Option Text) (artist : Bool)
    (songId : Option Text) : Server :=
  match server.getSongByIdOrCurrent session songId with
  | (server, none) => server
  | (server, some (_, song)) =>
      let stations := server.app.stationState.stations
      let station := match stationName with
        | some name => pianoFindStationByName stations name
        | none => pianoFindStationById stations song.stationId
      match station with
      | none => server.reply session .eNotFound
      | some station =>
          match server.pwnStation world session station.station.id with
          | (server, false) => server
          | (server, true) =>
              match server.pianoTransaction world none .search with
              | (server, false) => server.reply session .eNak
              | (server, true) =>
                  let found := world.searchResult
                  let musicId :=
                    if artist then (findArtistByName found.artists song.artist).bind (·.musicId)
                    else (findSongByArtistAndTitle found.songs song.artist song.title).bind
                      (·.musicId)
                  match musicId with
                  | none => server.reply session .eNak
                  | some _ => server.addSeedTo world session station.station.id

/-- What an id from the station details stands for. -/
inductive SeedSearch where
  | invalid
  | notFound
  | feedback (stationId : Text)
  | seed (stationId : Text)

/-- Look for a seed or feedback id, without its type letter, in the cached details. -/
def findSeed (kind : UInt8) (seedId : Text) : List StationInfoCache → SeedSearch
  | [] => .notFound
  | item :: items =>
      if kind ∈ ascii "f" then
        if item.info.feedback.any fun song => song.feedbackId = some seedId then
          .feedback item.stationId
        else findSeed kind seedId items
      else if kind ∈ ascii "s" then
        if item.info.songSeeds.any fun song => song.seedId = some seedId then .seed item.stationId
        else findSeed kind seedId items
      else if kind ∈ ascii "a" then
        if item.info.artistSeeds.any fun artist => artist.seedId = some seedId then
          .seed item.stationId
        else findSeed kind seedId items
      else if kind ∈ ascii "t" then
        if seedId ∈ item.info.stationSeeds then .seed item.stationId
        else findSeed kind seedId items
      else .invalid

/-- Delete a seed, or feedback, via the id provided with the station details. -/
def removeSeed (server : Server) (session : Nat) (seedId : Text) : Server :=
  let remove (request : PianoRequest) (stationId : Text) : Server :=
    match server.pianoTransaction world (some session) request with
    | (server, false) => server
    | (server, true) =>
        (server.withApp (server.app.modifyCache stationId fun item =>
          { item with retrieved := 0 })).applyStationInfo world
  match findSeed (seedId.headD 0) seedId.tail server.app.stationInfoCache with
  | .invalid => server.reply session .eInvalid
  | .notFound => server.reply session .eNotFound
  | .feedback stationId => remove .deleteFeedback stationId
  | .seed stationId => remove .deleteSeed stationId

def createStationFromSong (server : Server) (session : Nat) (name songId : Option Text) : Server :=
  match server.getSongByIdOrCurrent session songId with
  | (server, none) => server
  | (server, some _) => server.createStation world session name

def explainSongChoice (server : Server) (session : Nat) (songId : Option Text) : Server :=
  match server.getSongByIdOrCurrent session songId with
  | (server, none) => server
  | (server, some _) =>
      match server.pianoTransaction world none .explain with
      | (server, false) => server.reply session .eNak
      | (server, true) =>
          server.send (.connection session) [.sData, .iChoiceExplanation, .sDataEnd]

def createBookmark (server : Server) (session : Nat) (artist : Bool) (songId : Option Text) :
    Server :=
  match server.getSongByIdOrCurrent session songId with
  | (server, none) => server
  | (server, some _) =>
      (server.pianoTransaction world (some session)
        (if artist then .bookmarkArtist else .bookmarkSong)).1

/-! ## Searches -/

/-- The C library's `strcasestr`, as a test. -/
def strcasestr (text pattern : Text) : Bool :=
  text.foldCase.tails.any fun suffix => pattern.foldCase.isPrefixOf suffix

/-- Report the genres that match a term; the list of genres is retrieved once. -/
def sendGenres (server : Server) (session : Nat) (term : Text) : Server :=
  let listed (server : Server) : Server :=
    server.send (.connection session) (server.app.genreStations.flatMap fun category =>
      (category.2.filter fun genre => strcasestr category.1 term || strcasestr genre term).flatMap
        fun _ => [.sData, .iId, .iGenre, .iStation])
  if server.app.genreStations.isEmpty then
    match server.pianoTransaction world none .getGenreStations with
    | (server, false) => server
    | (server, true) =>
        listed (server.withApp { server.app with genreStations := world.genreStations })
  else listed server

/-- Show the results of a connection's last search. -/
def sendSuggestions (server : Server) (session : Nat) (kind : SuggestionKind) (term : Text)
    (results : SearchResult) : Server :=
  let server :=
    if kind = .any ∨ kind = .artist then server.sendArtists session results.artists false
    else server
  let server :=
    if kind = .any ∨ kind = .song then server.sendDetails session results.songs false else server
  let server :=
    if kind = .any ∨ kind = .genre then server.sendGenres world session term else server
  server.reply session .sDataEnd

/-- Process a `FIND` command; without a new term, repeat the last query. -/
def performQuery (server : Server) (session : Nat) (kind : SuggestionKind) (term : Option Text) :
    Server :=
  let search := (server.app.context session).search
  match term, search with
  | none, none => server.reply session .eWrongState
  | none, some (previous, results) => server.sendSuggestions world session kind previous results
  | some term, _ =>
      match search.filter fun entry => Text.strcasecmp entry.1 term = .eq with
      | some (previous, results) => server.sendSuggestions world session kind previous results
      | none =>
          let remember (server : Server) (search : Option (Text × SearchResult)) : Server :=
            server.withApp (server.app.modifyContext session fun context =>
              { context with search := search })
          match (remember server none).pianoTransaction world none .search with
          | (server, false) => server.reply session .eNak
          | (server, true) =>
              (remember server (some (term, world.searchResult))).sendSuggestions world session kind
                term world.searchResult

end Server

end Pianod
