import Pianod.Server.LowPrivilege
import Pianod.Server.PlaybackVerdicts
import Pianod.Server.UserRecords

/-!
# What handlers leave alone

Most handlers write to records that no connection, no song and no player thread depends on.  A
relation between states that bears such writes holds across each of these handlers; what is to be
kept is up to the relation.
-/

namespace Pianod

open Foundation

/-- The settings that are numbers in a range, and the autotuning mode. -/
def Settings.numbers (settings : Settings) : Int × Nat × Nat × Nat × Nat × UInt32 :=
  (settings.volume, settings.historyLength, settings.pauseTimeout, settings.playlistExpiration,
    settings.pandoraRetry, settings.automaticMode)

theorem automaticMode_of_numbers {before after : Settings}
    (same : after.numbers = before.numbers) : after.automaticMode = before.automaticMode :=
  congrArg (fun entry => entry.2.2.2.2.2) same

/-- A relation that holds across all writes but those to the player's controls, to the places of
songs, to settings that are numbers, and to what a connection is waiting for. -/
structure Bookkeeping (relates : Application → Application → Prop) : Prop where
  refl (app : Application) : relates app app
  trans {first second third : Application} :
    relates first second → relates second third → relates first third
  records {before after : Application} (rest : after = { before with
    stationState := after.stationState
    isCreator := after.isCreator
    genreStations := after.genreStations
    stationInfoCache := after.stationInfoCache
    skipHistory := after.skipHistory
    automaticStations := after.automaticStations
    shoutcast := after.shoutcast
    computationHadResults := after.computationHadResults
    computationHasListeners := after.computationHasListeners
    retryLoginTime := after.retryLoginTime
    updateStationList := after.updateStationList
    pianoparamChangePending := after.pianoparamChangePending
    quitRequested := after.quitRequested }) : relates before after
  /-- Details of songs may change while the songs stay in their places. -/
  songs {before after : Application} (rest : after = { before with
      playlist := after.playlist
      currentSong := after.currentSong
      songHistory := after.songHistory })
    (playlist : after.playlist.map (·.address) = before.playlist.map (·.address))
    (currentSong : after.currentSong.map (·.address) = before.currentSong.map (·.address))
    (songHistory : after.songHistory.map (·.address) = before.songHistory.map (·.address)) :
    relates before after
  /-- A connection gets another user or another search. -/
  context {app : Application} (session : Nat) {change : UserContext → UserContext}
    (same : ∀ context, (change context).reception = context.reception) :
    relates app (app.modifyContext session change)
  settings {app : Application} {settings : Settings}
    (numbers : settings.numbers = app.settings.numbers) :
    relates app { app with settings := settings }
  users {app : Application} {users : UserDatabase} (revised : UsersRevised app.users users) :
    relates app { app with users := users }

theorem Bookkeeping.of_eq {relates : Application → Application → Prop}
    (kept : Bookkeeping relates) {before after : Application} (same : after = before) :
    relates before after := by
  rw [same]
  exact kept.refl before

namespace Server

variable {relates : Application → Application → Prop} (kept : Bookkeeping relates)
  (world : World) (session : Nat) (server : Server)

/-- Retrieving the details of a station changes the cache only. -/
theorem getStationInfo_app (stationId : Text) :
    ∃ cache, (server.getStationInfo world stationId).1.app =
      { server.app with stationInfoCache := cache } := by
  obtain ⟨told, success, asked⟩ : ∃ told success,
      server.pianoTransaction world none (.getStationInfo stationId) = (told, success) :=
    ⟨_, _, rfl⟩
  have same := app_of_pianoTransaction world asked
  unfold getStationInfo
  rw [asked]
  dsimp only
  rw [← same]
  split
  · cases success <;> exact ⟨_, rfl⟩
  · split
    · cases success <;> exact ⟨_, rfl⟩
    · rw [same]
      exact ⟨_, rfl⟩

/-- Copying station details into songs changes no record's place. -/
theorem applyStationInfoToSongs_app (songs : List PianoSong) :
    ∃ cache, (server.applyStationInfoToSongs world songs).1.app =
        { server.app with stationInfoCache := cache } ∧
      (server.applyStationInfoToSongs world songs).2.map (·.address) = songs.map (·.address) := by
  induction songs generalizing server with
  | nil => exact ⟨_, rfl, rfl⟩
  | cons song songs ih =>
      unfold applyStationInfoToSongs
      split
      · obtain ⟨cache, same, places⟩ := ih server
        exact ⟨cache, same, congrArg (song.address :: ·) places⟩
      · rename_i cell _
        obtain ⟨retrieved, asked⟩ := server.getStationInfo_app world cell.station.id
        obtain ⟨cache, same, places⟩ := ih (server.getStationInfo world cell.station.id).1
        rw [asked] at same
        dsimp only
        split <;> exact ⟨cache, same, congrArg (song.address :: ·) places⟩

theorem getUserByName_app {server after : Server} {name : Text} {user : Option User}
    (found : server.getUserByName session name = (after, user)) : after.app = server.app := by
  unfold getUserByName at found
  split at found <;> cases found <;> rfl

theorem validUserList_app {server after : Server} {names : List Text} {valid : Bool}
    (checked : server.validUserList session names = (after, valid)) : after.app = server.app := by
  unfold validUserList at checked
  dsimp only at checked
  split at checked <;> cases checked <;> rfl

/-- The volume after a step up, a step down or a new level, if it is one. -/
def newVolume (volume : Int) (level : Text) : Option Int :=
  if Text.strcasecmp level (ascii "up") = .eq then
    if 100 ≤ volume then none else some (volume + 1)
  else if Text.strcasecmp level (ascii "down") = .eq then
    if volume ≤ -100 then none else some (volume - 1)
  else
    match strtol level .decimal with
    | (number, []) => if number < -100 ∨ 100 < number then none else some number
    | (_, _ :: _) => none

/-- The volume is set, or the level is refused. -/
theorem setVolume_eq (level : Text) :
    server.setVolume session level =
      match newVolume server.app.settings.volume level with
      | none => server.reply session .eInvalid
      | some volume => (((server.withApp { server.app with
          settings := { server.app.settings with volume := volume } }).reply session
            .sOk).sendResponse .iVolume) := by
  unfold setVolume newVolume
  dsimp only
  split
  · split <;> rfl
  · split
    · split <;> rfl
    · cases strtol level .decimal with
      | mk number rest =>
          cases rest with
          | nil =>
              dsimp only
              split <;> rfl
          | cons byte bytes => rfl

include kept

/-! ## Stations -/

theorem related_of_transaction {server after : Server} {event : Option Nat}
    {request : PianoRequest} {success : Bool}
    (asked : server.pianoTransaction world event request = (after, success)) :
    relates server.app after.app :=
  kept.of_eq (app_of_pianoTransaction world asked)

/-- What is done after a transaction that succeeded. -/
theorem related_afterTransaction (told : Server) (request : PianoRequest) {next : Server → Server}
    (onward : ∀ server, relates server.app (next server).app) :
    relates told.app (match told.pianoTransaction world (some session) request with
      | (server, false) => server
      | (server, true) => next server).app := by
  split
  · rename_i asked
    exact related_of_transaction kept world asked
  · rename_i server asked
    exact kept.trans (related_of_transaction kept world asked) (onward server)

theorem related_withStations (state : StationState) :
    relates server.app (server.withStations state).app := kept.records rfl

theorem related_recomputeStations {server after : Server}
    (computed : server.recomputeStations world = .ok after) : relates server.app after.app := by
  unfold recomputeStations at computed
  split at computed
  · cases computed
  · cases computed
    rw [foldl_tunerNotice_app]
    exact kept.records rfl

theorem related_pwnStation {server after : Server} {stationId : Text} {owned : Bool}
    (pwned : server.pwnStation world session stationId = (after, owned)) :
    relates server.app after.app := by
  unfold pwnStation at pwned
  split at pwned
  · cases pwned
    exact kept.refl _
  · split at pwned
    · cases pwned
      exact kept.refl _
    · split at pwned
      · rename_i asked
        have told := related_of_transaction kept world asked
        cases pwned
        exact told
      · rename_i asked
        have told := related_of_transaction kept world asked
        cases pwned
        exact kept.trans told (kept.records rfl)

theorem related_changeMix {server after : Server} {command : MixCommand} {names : List Text}
    (changed : server.changeMix world session command names = .ok after) :
    relates server.app after.app := by
  unfold changeMix at changed
  split at changed
  · rename_i validated
    cases changed
    obtain rfl := congrArg Prod.fst validated
    exact kept.refl _
  · rename_i validated
    obtain rfl := congrArg Prod.fst validated
    split at changed
    · cases changed
    · rename_i mixed
      cases changed
      unfold manipulateQuickmix at mixed
      dsimp only at mixed
      split at mixed
      · cases mixed
      · split at mixed
        · split at mixed
          · rename_i asked
            have told := related_of_transaction kept world asked
            cases mixed
            rw [reply_app, announceAction_app, sendResponse_app]
            exact kept.trans (related_withStations kept _ _) told
          · rename_i asked
            have told := related_of_transaction kept world asked
            cases mixed
            exact kept.trans (related_withStations kept _ _) told
        · cases mixed
          exact kept.records rfl

private theorem related_renameNewStation (name : Option Text) :
    relates server.app (server.renameNewStation world session name).app := by
  unfold renameNewStation
  split
  · split
    · rename_i pwned
      exact related_pwnStation kept world session pwned
    · rename_i pwned
      have possessed := related_pwnStation kept world session pwned
      split
      · rename_i asked
        have told := related_of_transaction kept world asked
        exact kept.trans possessed (kept.trans told (kept.records rfl))
      · rename_i asked
        have told := related_of_transaction kept world asked
        exact kept.trans possessed told
  · exact kept.refl _

theorem related_createStation (name : Option Text) :
    relates server.app (server.createStation world session name).app := by
  unfold createStation
  split
  · rename_i asked
    exact related_of_transaction kept world asked
  · rename_i asked
    rw [announceAction_app, sendResponse_app]
    refine kept.trans (related_of_transaction kept world asked) (kept.trans ?_
      (related_renameNewStation kept world session _ name))
    exact kept.records rfl

theorem related_renameStation {server after : Server} {fromName toName : Text}
    (renamed : server.renameStation world session fromName toName = .ok after) :
    relates server.app after.app := by
  unfold renameStation at renamed
  split at renamed
  · cases renamed
  · split at renamed
    · rename_i pwned
      cases renamed
      exact related_pwnStation kept world session pwned
    · rename_i pwned
      have possessed := related_pwnStation kept world session pwned
      split at renamed
      · rename_i asked
        cases renamed
        exact kept.trans possessed (related_of_transaction kept world asked)
      · rename_i asked
        cases renamed
        rw [announceAction_app, sendResponse_app]
        exact kept.trans possessed (kept.trans (related_of_transaction kept world asked)
          (kept.records rfl))

theorem related_deleteStation (name : Text) :
    relates server.app (server.deleteStation world session name).app := by
  unfold deleteStation
  split
  · exact kept.refl _
  · dsimp only
    split
    · rename_i asked
      have told := related_of_transaction kept world asked
      exact kept.trans (related_withStations kept _ _) told
    · rename_i asked
      have told := related_of_transaction kept world asked
      rw [announceAction_app, sendResponse_app]
      exact kept.trans (related_withStations kept _ _)
        (kept.trans told (related_withStations kept _ _))

theorem related_updateStationList {server after : Server}
    (updated : server.updateStationList world = .ok after) : relates server.app after.app := by
  unfold updateStationList at updated
  dsimp only at updated
  split at updated
  · cases updated
    exact kept.refl _
  · split at updated
    · rename_i asked
      cases updated
      exact kept.trans (related_of_transaction kept world asked) (kept.records rfl)
    · rename_i asked
      split at updated
      · cases updated
      · cases updated
        refine kept.trans (related_of_transaction kept world asked) ?_
        split <;> exact kept.records rfl

theorem related_getStationByNameOrCurrent {server after : Server} {name : Option Text}
    {found : Option StationCell}
    (searched : server.getStationByNameOrCurrent session name = .ok (after, found)) :
    relates server.app after.app :=
  kept.of_eq (getStationByNameOrCurrent_app searched)

/-! ## Songs, seeds and searches -/

theorem related_getSongByIdOrCurrent {server after : Server} {songId : Option Text}
    {found : Option (SongPlace × PianoSong)}
    (searched : server.getSongByIdOrCurrent session songId = (after, found)) :
    relates server.app after.app :=
  kept.of_eq (verdicts_getSongByIdOrCurrent session searched).2.1

private theorem related_getStationInfo (stationId : Text) :
    relates server.app (server.getStationInfo world stationId).1.app := by
  obtain ⟨cache, same⟩ := server.getStationInfo_app world stationId
  rw [same]
  exact kept.records rfl

/-- The three places get their songs back one after the other. -/
theorem related_applyStationInfo : relates server.app (server.applyStationInfo world).app := by
  have cached (app : Application) (cache : List StationInfoCache) :
      relates app { app with stationInfoCache := cache } := kept.records rfl
  have history (first : Server) : relates first.app { (first.applyStationInfoToSongs world
      first.app.songHistory).1.app with
        songHistory := (first.applyStationInfoToSongs world first.app.songHistory).2 } := by
    obtain ⟨cache, same, places⟩ :=
      first.applyStationInfoToSongs_app world first.app.songHistory
    rw [same]
    exact kept.trans (cached first.app cache) (kept.songs rfl rfl rfl places)
  have current (first : Server) : relates first.app { (first.applyStationInfoToSongs world
      first.app.currentSong.toList).1.app with
        currentSong := (first.applyStationInfoToSongs world
          first.app.currentSong.toList).2.head? } := by
    obtain ⟨cache, same, places⟩ :=
      first.applyStationInfoToSongs_app world first.app.currentSong.toList
    rw [same]
    refine kept.trans (cached first.app cache) (kept.songs rfl rfl ?_ rfl)
    have heads := congrArg List.head? places
    rw [List.head?_map, List.head?_map] at heads
    refine heads.trans ?_
    cases first.app.currentSong <;> rfl
  have playlist (first : Server) : relates first.app { (first.applyStationInfoToSongs world
      first.app.playlist).1.app with
        playlist := (first.applyStationInfoToSongs world first.app.playlist).2 } := by
    obtain ⟨cache, same, places⟩ := first.applyStationInfoToSongs_app world first.app.playlist
    rw [same]
    exact kept.trans (cached first.app cache) (kept.songs rfl places rfl rfl)
  unfold applyStationInfo
  dsimp only
  exact kept.trans (history server) (kept.trans (current (withApp _ _)) (playlist (withApp _ _)))

theorem related_expireStationInfo (stationId : Text) :
    relates server.app (server.expireStationInfo world stationId).app := by
  unfold expireStationInfo
  split
  · exact kept.refl _
  · refine kept.trans ?_ (related_applyStationInfo kept world _)
    exact kept.records rfl

theorem related_expireStationInfoBySong (place : SongPlace) (song : PianoSong) :
    relates server.app (server.expireStationInfoBySong world place song).app := by
  unfold expireStationInfoBySong
  dsimp only
  split
  · exact related_expireStationInfo kept world server _
  · exact related_expireStationInfo kept world server _

theorem related_sendStationInfo (station : StationCell) :
    relates server.app (server.sendStationInfo world session station).app := by
  have retrieved := related_getStationInfo kept world server station.station.id
  unfold sendStationInfo
  split
  · rename_i asked
    rw [asked] at retrieved
    exact retrieved
  · rename_i asked
    rw [asked] at retrieved
    exact retrieved

/-- Changing a song's rating leaves it where it is. -/
theorem related_modifySong (app : Application) (place : SongPlace) {change : PianoSong → PianoSong}
    (same : ∀ song, (change song).address = song.address) :
    relates app (app.modifySong place change) := by
  have modified (songs : List PianoSong) (index : Nat) :
      (songs.modify index change).map (·.address) = songs.map (·.address) := by
    apply List.ext_getElem?
    intro other
    rw [List.getElem?_map, List.getElem?_modify, List.getElem?_map]
    cases songs[other]? with
    | none => split <;> rfl
    | some song =>
        split
        · exact congrArg some (same song)
        · rfl
  cases place with
  | history index => exact kept.songs rfl rfl rfl (modified _ _)
  | playlist index => exact kept.songs rfl (modified _ _) rfl rfl
  | current =>
      refine kept.songs rfl rfl ?_ rfl
      cases known : app.currentSong with
      | none => simp [Application.modifySong, known]
      | some song => simp [Application.modifySong, known, same]

theorem related_rated (place : SongPlace) (song : PianoSong) (rating : SongRating)
    (told : Server) :
    relates told.app ((told.withApp (told.app.modifySong place fun song =>
      { song with rating := rating })).expireStationInfoBySong world place song).app :=
  kept.trans (@related_modifySong _ kept told.app place (fun song =>
    { song with rating := rating }) fun _ => rfl)
    (related_expireStationInfoBySong kept world (withApp _ _) place song)

/-- A song of an own station is rated. -/
theorem related_rateOwned (told : Server) (place : SongPlace) (song : PianoSong)
    (rating : SongRating) :
    relates told.app (match told.pwnStation world session song.stationId with
      | (server, false) => server
      | (server, true) =>
          if rating = song.rating then server.reply session .sOk
          else
            match server.pianoTransaction world (some session) .rateSong with
            | (server, false) => server
            | (server, true) =>
                (server.withApp (server.app.modifySong place fun song =>
                  { song with rating := rating })).expireStationInfoBySong world place
                    song).app := by
  split
  · rename_i pwned
    exact related_pwnStation kept world session pwned
  · rename_i pwned
    refine kept.trans (related_pwnStation kept world session pwned) ?_
    split
    · exact kept.refl _
    · exact related_afterTransaction kept world session _ .rateSong
        (related_rated kept world place song rating)

theorem related_rateSong (command : RateCommand) (songId : Option Text) :
    relates server.app (server.rateSong world session command songId).app := by
  unfold rateSong
  split
  · rename_i searched
    exact related_getSongByIdOrCurrent kept session searched
  · rename_i told place song searched
    refine kept.trans (related_getSongByIdOrCurrent kept session searched) ?_
    cases command with
    | overplayed => exact kept.of_eq (pianoTransaction_app world told (some session) .addTiredSong)
    | neutral =>
        dsimp only
        refine kept.trans (related_applyStationInfo kept world told) ?_
        split
        · exact kept.refl _
        · exact related_afterTransaction kept world session _ .deleteFeedback
            (related_rated kept world place _ .none)
    | love => exact related_rateOwned kept world session told place song .love
    | hate => exact related_rateOwned kept world session told place song .ban

theorem related_removeSongSeed (artist : Bool) (songId : Option Text) :
    relates server.app (server.removeSongSeed world session artist songId).app := by
  unfold removeSongSeed
  split
  · rename_i searched
    exact related_getSongByIdOrCurrent kept session searched
  · rename_i told place song searched
    refine kept.trans (related_getSongByIdOrCurrent kept session searched) ?_
    have performed :=
      @related_afterTransaction _ kept world session told .deleteSeed _ fun server =>
      related_expireStationInfoBySong kept world server place song
    dsimp only
    generalize (if artist then _ else _ : Bool) = refused
    split
    · exact kept.refl _
    · exact performed

theorem related_addSeedTo (stationId : Text) :
    relates server.app (server.addSeedTo world session stationId).app := by
  unfold addSeedTo
  split
  · rename_i asked
    exact related_of_transaction kept world asked
  · rename_i asked
    exact kept.trans (related_of_transaction kept world asked)
      (related_expireStationInfo kept world _ _)

theorem related_addSeed {server after : Server} {stationName : Option Text} {suggestionId : Text}
    (added : server.addSeed world session stationName suggestionId = .ok after) :
    relates server.app after.app := by
  unfold addSeed at added
  split at added
  · cases added
  · rename_i searched
    cases added
    exact related_getStationByNameOrCurrent kept session searched
  · rename_i searched
    refine kept.trans (related_getStationByNameOrCurrent kept session searched) ?_
    split at added
    · split at added
      · rename_i pwned
        cases added
        exact related_pwnStation kept world session pwned
      · rename_i pwned
        cases added
        exact kept.trans (related_pwnStation kept world session pwned)
          (related_addSeedTo kept world session _ _)
    · cases added
      exact kept.refl _

theorem related_addSongSeed (stationName : Option Text) (artist : Bool) (songId : Option Text) :
    relates server.app (server.addSongSeed world session stationName artist songId).app := by
  unfold addSongSeed
  split
  · rename_i searched
    exact related_getSongByIdOrCurrent kept session searched
  · rename_i searched
    refine kept.trans (related_getSongByIdOrCurrent kept session searched) ?_
    dsimp only
    split
    · exact kept.refl _
    · split
      · rename_i pwned
        exact related_pwnStation kept world session pwned
      · rename_i pwned
        refine kept.trans (related_pwnStation kept world session pwned) ?_
        split
        · rename_i asked
          have told := related_of_transaction kept world asked
          exact told
        · rename_i asked
          refine kept.trans (related_of_transaction kept world asked) ?_
          split
          · exact kept.refl _
          · exact related_addSeedTo kept world session _ _

theorem related_removeSeed (seedId : Text) :
    relates server.app (server.removeSeed world session seedId).app := by
  have expired (stationId : Text) (told : Server) : relates told.app
      ((told.withApp (told.app.modifyCache stationId fun item =>
        { item with retrieved := 0 })).applyStationInfo world).app :=
    kept.trans (kept.records rfl) (related_applyStationInfo kept world _)
  unfold removeSeed
  dsimp only
  split
  · exact kept.refl _
  · exact kept.refl _
  · exact related_afterTransaction kept world session server .deleteFeedback (expired _)
  · exact related_afterTransaction kept world session server .deleteSeed (expired _)

theorem related_createStationFromSong (name songId : Option Text) :
    relates server.app (server.createStationFromSong world session name songId).app := by
  unfold createStationFromSong
  split
  · rename_i searched
    exact related_getSongByIdOrCurrent kept session searched
  · rename_i searched
    exact kept.trans (related_getSongByIdOrCurrent kept session searched)
      (related_createStation kept world session _ name)

theorem related_createStationFromShared (name : Option Text) (stationId : Text) :
    relates server.app (server.createStationFromShared world session name stationId).app := by
  unfold createStationFromShared
  split
  · exact related_createStation kept world session server name
  · exact kept.refl _

theorem related_createStationFromSuggestion (name : Option Text) (suggestionId : Text) :
    relates server.app
      (server.createStationFromSuggestion world session name suggestionId).app := by
  unfold createStationFromSuggestion
  split
  · exact related_createStation kept world session server name
  · exact kept.refl _

theorem related_explainSongChoice (songId : Option Text) :
    relates server.app (server.explainSongChoice world session songId).app := by
  unfold explainSongChoice
  split
  · rename_i searched
    exact related_getSongByIdOrCurrent kept session searched
  · rename_i searched
    refine kept.trans (related_getSongByIdOrCurrent kept session searched) ?_
    split
    · rename_i asked
      have told := related_of_transaction kept world asked
      exact told
    · rename_i asked
      have told := related_of_transaction kept world asked
      exact told

theorem related_createBookmark (artist : Bool) (songId : Option Text) :
    relates server.app (server.createBookmark world session artist songId).app := by
  unfold createBookmark
  split
  · rename_i searched
    exact related_getSongByIdOrCurrent kept session searched
  · rename_i searched
    exact kept.trans (related_getSongByIdOrCurrent kept session searched)
      (kept.of_eq (pianoTransaction_app world _ _ _))

private theorem related_sendGenres (term : Text) :
    relates server.app (server.sendGenres world session term).app := by
  unfold sendGenres
  dsimp only
  split
  · split
    · rename_i asked
      exact related_of_transaction kept world asked
    · rename_i asked
      exact kept.trans (related_of_transaction kept world asked) (kept.records rfl)
  · exact kept.refl _

theorem related_sendSuggestions (kind : SuggestionKind) (term : Text) (results : SearchResult) :
    relates server.app (server.sendSuggestions world session kind term results).app := by
  have artists (condition : Prop) [Decidable condition] (server : Server) :
      relates server.app (if condition then server.sendArtists session results.artists false
        else server).app := by
    split <;> exact kept.refl _
  have songs (condition : Prop) [Decidable condition] (server : Server) :
      relates server.app (if condition then server.sendDetails session results.songs false
        else server).app := by
    split <;> exact kept.refl _
  have genres (condition : Prop) [Decidable condition] (server : Server) :
      relates server.app (if condition then server.sendGenres world session term
        else server).app := by
    split
    · exact related_sendGenres kept world session server term
    · exact kept.refl _
  unfold sendSuggestions
  dsimp only
  exact kept.trans (artists _ server) (kept.trans (songs _ _) (genres _ _))

theorem related_performQuery (kind : SuggestionKind) (term : Option Text) :
    relates server.app (server.performQuery world session kind term).app := by
  have remembered (server : Server) (search : Option (Text × SearchResult)) : relates server.app
      (server.withApp (server.app.modifyContext session fun context =>
        { context with search := search })).app :=
    kept.context session fun _ => rfl
  unfold performQuery
  dsimp only
  split
  · exact kept.refl _
  · exact related_sendSuggestions kept world session _ _ _ _
  · split
    · exact related_sendSuggestions kept world session _ _ _ _
    · split
      · rename_i asked
        have told := related_of_transaction kept world asked
        exact kept.trans (remembered _ _) told
      · rename_i asked
        have told := related_of_transaction kept world asked
        exact kept.trans (remembered _ _) (kept.trans told (kept.trans (remembered _ _)
          (related_sendSuggestions kept world session _ _ _ _)))

/-! ## Playback -/

/-- Skipping is refused, or it cancels playback. -/
theorem nextSong_cancels {server after : Server}
    (skipped : server.nextSong world session = .ok after) :
    ∃ told : Server, relates server.app told.app ∧
      (after.app = (told.cancelPlayback world).app ∨
        after.app = told.app ∧
          (⟨.connection session, .sOk⟩ ∈ after.sent →
            ⟨.connection session, .sOk⟩ ∈ server.sent)) := by
  unfold nextSong at skipped
  split at skipped
  · split at skipped
    · cases skipped
    · rename_i song _
      obtain ⟨told, available, asked⟩ : ∃ told available, (if server.app.doQuit then (server, true)
          else server.skipsAreAvailable world session song.stationId) = (told, available) :=
        ⟨_, _, rfl⟩
      have noted : relates server.app told.app := by
        obtain rfl := congrArg Prod.fst asked
        split
        · exact kept.refl _
        · exact kept.records rfl
      have lines : ⟨.connection session, .sOk⟩ ∈ told.sent →
          ⟨.connection session, .sOk⟩ ∈ server.sent := by
        obtain rfl := congrArg Prod.fst asked
        split
        · exact id
        · simp [skipsAreAvailable]
      rw [asked] at skipped
      dsimp only at skipped
      refine ⟨told, noted, ?_⟩
      split at skipped
      · cases skipped
        exact .inl (announceAction_app _)
      · cases skipped
        refine .inr ⟨rfl, ?_⟩
        simpa using lines
  · cases skipped
    refine ⟨server, kept.refl _, .inr ⟨rfl, ?_⟩⟩
    simp

/-- Selecting a station disturbs nothing until playback is started. -/
theorem selectStation_controls {server after : Server} {station : Option StationCell}
    {automatic plays : Bool}
    (selected : server.selectStation world session station automatic plays = .ok after) :
    ∃ told : Server, relates server.app told.app ∧
      (after.app = told.app ∨ after = told.controlPlayback world session .play) := by
  unfold selectStation at selected
  split at selected
  · cases selected
    exact ⟨server, kept.refl _, .inl rfl⟩
  · dsimp only at selected
    split at selected
    · cases selected
    · rename_i told sent
      have same := sendSelectedStation_app sent
      rw [announceAction_app, withApp_app] at same
      have noted : relates server.app told.app := by
        rw [same]
        exact kept.records rfl
      split at selected
      · cases selected
      · rename_i computed
        have tuned := kept.trans noted (related_recomputeStations kept world computed)
        split at selected
        · cases selected
          exact ⟨_, tuned, .inr rfl⟩
        · cases selected
          exact ⟨_, tuned, .inl rfl⟩

/-- Stopping now cancels playback. -/
theorem stopPlayback_cancels {server after : Server} {now : Bool}
    (stopped : server.stopPlayback world session now = .ok after) :
    ∃ told : Server, relates server.app told.app ∧
      after.app = if now then (told.cancelPlayback world).app else told.app := by
  unfold stopPlayback at stopped
  dsimp only at stopped
  split at stopped
  · cases stopped
  · rename_i sent
    have same := sendSelectedStation_app sent
    cases stopped
    refine ⟨_, related_withStations kept server
      { server.app.stationState with selectedStation := none }, ?_⟩
    rw [reply_app, same, announceAction_app]
    split <;> rfl

/-! ## Settings -/

theorem related_withSettings {settings : Settings}
    (numbers : settings.numbers = server.app.settings.numbers) :
    relates server.app (server.withSettings settings).app :=
  kept.settings numbers

theorem related_setText (setting : TextSetting) (value : Option Text) :
    relates server.app (server.setText setting value).app :=
  related_withSettings kept server rfl

theorem related_changeSetting (setting : TextSetting) (value : Option Text) :
    relates server.app (server.changeSetting session setting value).app :=
  kept.trans (related_setText kept server setting value) (kept.records rfl)

theorem related_setShoutcast (command : ShoutcastCommand) (connect : Option Text) :
    relates server.app (server.setShoutcast world session command connect).app := by
  unfold setShoutcast
  dsimp only
  split
  · split <;> exact kept.records rfl
  · split
    · exact kept.refl _
    · split <;> exact kept.records rfl
  · split
    · exact kept.refl _
    · exact related_setText kept server _ _

theorem related_changeFingerprint (value : Text) :
    relates server.app (server.changeFingerprint session value).app := by
  unfold changeFingerprint
  split
  · have changed := @related_withSettings _ kept server { server.app.settings with
      tlsFingerprint := fingerprintBytes value } rfl
    exact kept.trans changed (kept.records rfl)
  · exact kept.refl _

theorem related_setControlProxy (url : Text) :
    relates server.app (server.setControlProxy world session url).app := by
  unfold setControlProxy
  split
  · exact related_setText kept server _ _
  · exact kept.refl _

theorem related_setProxy (url : Text) :
    relates server.app (server.setProxy session url).app := by
  unfold setProxy
  split
  · exact related_setText kept server _ _
  · exact kept.refl _

theorem related_setCapturePath (off : Bool) (path : Option Text) :
    relates server.app (server.setCapturePath world session off path).app := by
  unfold setCapturePath
  split
  · exact related_setText kept server _ _
  · split
    · exact kept.refl _
    · split
      · exact related_setText kept server _ _
      · exact kept.refl _

/-! ## Credentials -/

private theorem related_withLogin (app : Application) {login : ServerState}
    (rewritten : SameRecords app.users login.users) : relates app (app.withLogin login) := by
  have settled : relates { app with users := login.users } { app with
      users := login.users
      settings := { app.settings with pandora := login.pandora, pending := login.pending } } :=
    kept.settings rfl
  exact kept.trans (kept.users (.rewritten rewritten)) (kept.trans settled (kept.records rfl))

/-- Logging in disturbs nothing until those who wait for it are told its outcome. -/
theorem setPandoraUser_tells {server after : Server}
    (switched : server.setPandoraUser world session = .ok after) :
    relates server.app after.app ∨ ∃ (middle : Server) (response : ResponseCode),
      relates server.app middle.app ∧ after = middle.eventOccurred .authenticated response := by
  unfold setPandoraUser at switched
  dsimp only at switched
  split at switched
  · cases switched
  · cases switched
  · rename_i login changed settling _
    have asked : (if changed then ((server.sendResponse .iServerStatus).barUiPianoCall world
        .login).1 else server).app = server.app := by
      split
      · unfold barUiPianoCall
        split <;> rfl
      · rfl
    generalize (if changed then ((server.sendResponse .iServerStatus).barUiPianoCall world
      .login).1 else server) = told at switched asked
    have settled := related_withLogin kept server.app (.setPandoraUser settling)
    rw [← asked] at settled ⊢
    split at switched
    · cases switched
      exact .inl settled
    · cases switched
      exact .inr ⟨_, _, settled, rfl⟩
    · split at switched
      · cases switched
      · rename_i updated
        cases switched
        refine .inr ⟨_, _, ?_, rfl⟩
        have listed := related_updateStationList kept world updated
        refine kept.trans (kept.trans (kept.trans settled ?_) listed) (kept.records rfl)
        split <;> exact kept.records rfl

/-- New credentials are refused, or tried. -/
theorem acceptNewCredentials_tries {server after : Server} {remember : Bool}
    {username password : Text} {ownership : Ownership} {manager : Option Text}
    (accepted : server.acceptNewCredentials world session remember username password ownership
      manager = .ok after) :
    relates server.app after.app ∨ ∃ middle : Server,
      relates server.app middle.app ∧ middle.setPandoraUser world session = .ok after := by
  unfold acceptNewCredentials at accepted
  dsimp only at accepted
  split at accepted
  · cases accepted
    exact .inl (kept.refl _)
  · split at accepted
    · split at accepted
      · cases accepted
      · exact .inr ⟨_, related_withSettings kept server (by rfl), accepted⟩
    · split at accepted
      · rename_i found
        cases accepted
        exact .inl (kept.of_eq (getUserByName_app session found))
      · split at accepted
        · cases accepted
        · exact .inr ⟨_, related_withSettings kept server (by rfl), accepted⟩

/-- Saved credentials are not there, or tried. -/
theorem restoreCredentials_tries {server after : Server} {name : Text}
    (restored : server.restoreCredentials world session name = .ok after) :
    relates server.app after.app ∨ ∃ middle switched : Server,
      relates server.app middle.app ∧ middle.setPandoraUser world session = .ok switched ∧
        after.app = switched.app := by
  unfold restoreCredentials at restored
  split at restored
  · rename_i found
    cases restored
    exact .inl (kept.of_eq (getUserByName_app session found))
  · rename_i found
    have looked_up := kept.of_eq (getUserByName_app session found)
    split at restored
    · cases restored
    · cases restored
      exact .inl looked_up
    · split at restored
      · cases restored
      · rename_i switched
        cases restored
        exact .inr ⟨_, _, kept.trans looked_up (related_withSettings kept _ (by rfl)),
          switched,
          announceAction_app _⟩

/-! ## Users -/

theorem related_rateStation {server after : Server} {user : UserRef} {rating : StationRating}
    {name : Option Text} (rated : server.rateStation world session user rating name = .ok after) :
    relates server.app after.app := by
  unfold rateStation at rated
  split at rated
  · cases rated
  · rename_i found
    cases rated
    exact related_getStationByNameOrCurrent kept session found
  · rename_i found
    refine kept.trans (related_getStationByNameOrCurrent kept session found) ?_
    split at rated
    · cases rated
    · cases rated
    · rename_i users _ revised _
      have computed := related_recomputeStations kept world rated
      refine kept.trans ?_ computed
      have told (rated : Server) (playing : Bool) : (if playing then
          rated.notify (fun context => context.user == some user) .iUserRating
            else rated).app = rated.app := by
        split <;> rfl
      rw [notify_app, told, reply_app]
      exact kept.users (.rewritten (.of_edited (.setStationRating revised)))

theorem related_setPrivileges {server after : Server} {privilege : Privilege} {setting : Bool}
    {names : List Text}
    (changed : server.setPrivileges world session privilege setting names = .ok after) :
    relates server.app after.app := by
  unfold setPrivileges at changed
  split at changed
  · rename_i checked
    cases changed
    exact kept.of_eq (validUserList_app session checked)
  · rename_i checked
    refine kept.trans (kept.of_eq (validUserList_app session checked)) ?_
    split at changed
    · cases changed
    · rename_i users set
      have revised := kept.users (.rewritten (.of_edited (.setPrivileges set)))
      dsimp only at changed
      split at changed
      · cases changed
      · rename_i tuned
        cases changed
        rw [reply_app, announcePrivileges, notify_app]
        split at tuned
        · exact kept.trans revised (related_recomputeStations kept world tuned)
        · cases tuned
          exact revised

theorem related_autotune {server after : Server} {clears consider : Bool} {names : List Text}
    (tuned : server.autotune world session clears consider names = .ok after) :
    relates server.app after.app := by
  unfold autotune at tuned
  split at tuned
  · rename_i checked
    cases tuned
    exact kept.of_eq (validUserList_app session checked)
  · rename_i checked
    refine kept.trans (kept.of_eq (validUserList_app session checked)) ?_
    dsimp only at tuned
    split at tuned
    · cases tuned
    · rename_i users set
      have computed := related_recomputeStations kept world tuned
      rw [reply_app] at computed
      refine kept.trans (kept.users (.rewritten (.of_edited ?_))) computed
      refine .trans ?_ (.setPrivileges set)
      split
      · exact .clear .refl _
      · exact .refl

theorem related_authenticate {crypt : Text → Text → Text} {server after : Server}
    {name password : Text}
    (entered : server.authenticate world crypt session name password = .ok after) :
    relates server.app after.app := by
  have logged_in (user : Option UserRef) : relates server.app
      (server.app.modifyContext session fun context => { context with user := user }) :=
    kept.context session fun _ => rfl
  unfold authenticate at entered
  dsimp only at entered
  split at entered
  · cases entered
  · cases entered
    exact logged_in _
  · split at entered
    · cases entered
    · rename_i computed
      cases entered
      have tuned := related_recomputeStations kept world computed
      refine kept.trans ?_ tuned
      split
      · rw [sendStationRating, reply_app, announceAction_app]
        exact logged_in _
      · rw [announceAction_app]
        exact logged_in _

theorem related_createUser {server after : Server} {rank : UserRank} {name : Text}
    (created : server.createUser world session rank name = .ok after) :
    relates server.app after.app := by
  unfold createUser at created
  split at created
  · cases created
    exact kept.refl _
  · rename_i create
    split at created
    · cases created
    · rename_i ranked
      cases created
      exact kept.trans (kept.users (.created create))
        (kept.users (.rewritten (.of_edited (.setRank ranked))))

theorem related_setUserRank {server after : Server} {name : Text} {rank : UserRank}
    (changed : server.setUserRank session name rank = .ok after) :
    relates server.app after.app := by
  unfold setUserRank at changed
  split at changed
  · rename_i found
    cases changed
    exact kept.of_eq (getUserByName_app session found)
  · rename_i found
    refine kept.trans (kept.of_eq (getUserByName_app session found)) ?_
    split at changed
    · cases changed
    · rename_i ranked
      cases changed
      exact kept.users (.rewritten (.of_edited (.setRank ranked)))

/-- Deleting a user detaches the credentials from it. -/
theorem related_deleteUser {server after : Server} {name : Text}
    (deleted : server.deleteUser session name = .ok after) : relates server.app after.app := by
  unfold deleteUser at deleted
  split at deleted
  · rename_i found
    cases deleted
    exact kept.of_eq (getUserByName_app session found)
  · rename_i found
    refine kept.trans (kept.of_eq (getUserByName_app session found)) ?_
    split at deleted
    · cases deleted
      exact kept.refl _
    · split at deleted
      · cases deleted
      · rename_i delete
        cases deleted
        exact kept.trans (kept.users (.deleted delete)) (kept.settings rfl)

theorem related_changePassword {crypt : Text → Text → Text} {server after : Server}
    {user : UserRef} {old : Text}
    (changed : server.changePassword world crypt session user old = .ok after) :
    relates server.app after.app := by
  unfold changePassword at changed
  split at changed
  · cases changed
  · split at changed
    · cases changed
    · cases changed
    · cases changed
      exact kept.refl _
    · rename_i users _ revised
      cases changed
      exact kept.users (.rewritten (.of_edited (.changePassword revised)))

/-- Whether a user is kicked or not, only the user's connections are closed. -/
theorem kickUser_closes (name : Text) :
    relates server.app (server.kickUser session name).app ∨
      ∃ user, (server.kickUser session name).app = (server.userLogoff user).app := by
  unfold kickUser
  split
  · rename_i found
    exact .inl (kept.of_eq (getUserByName_app session found))
  · rename_i after user found
    have same := getUserByName_app session found
    split
    · refine .inr ⟨some (.listed user.serial), ?_⟩
      rw [announceAction_app, reply_app]
      unfold userLogoff
      rw [withApp_app, withApp_app, notify_app, notify_app, same]
    · exact .inl (kept.of_eq same)

end Server

end Pianod
