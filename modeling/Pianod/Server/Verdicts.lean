import Pianod.Server.SongCommands

/-!
# The verdicts of the station commands

For each handler, the number of final statuses it sends to the connection a command came from.  Most
send exactly one; a few helpers send none and leave that to their callers.
-/

namespace Pianod

open Foundation

/-- None of the codes ends an answer. -/
def Quiet (codes : List ResponseCode) : Prop := ∀ code ∈ codes, code.isFinal = false

instance (codes : List ResponseCode) : Decidable (Quiet codes) :=
  inferInstanceAs (Decidable (∀ code ∈ codes, code.isFinal = false))

namespace Quiet

@[simp]
theorem nil : Quiet [] := nofun

@[simp]
theorem cons_iff {code : ResponseCode} {codes : List ResponseCode} :
    Quiet (code :: codes) ↔ code.isFinal = false ∧ Quiet codes := by simp [Quiet]

@[simp]
theorem append_iff {first second : List ResponseCode} :
    Quiet (first ++ second) ↔ Quiet first ∧ Quiet second := by
  simp [Quiet, or_imp, forall_and]

theorem flatMap {α : Type} {items : List α} {lines : α → List ResponseCode}
    (quiet : ∀ item, Quiet (lines item)) : Quiet (items.flatMap lines) := by
  intro code member
  obtain ⟨item, -, there⟩ := List.mem_flatMap.mp member
  exact quiet item code there

theorem map {α : Type} {items : List α} {code : ResponseCode} (quiet : code.isFinal = false) :
    Quiet (items.map fun _ => code) := by
  intro other member
  obtain ⟨_, -, rfl⟩ := List.mem_map.mp member
  exact quiet

end Quiet

namespace Server

/-- The final statuses a connection has received. -/
def verdicts (server : Server) (session : Nat) : Nat := Pianod.verdicts session server.sent

variable (world : World) (server : Server) (session : Nat)

/-! ## Sending -/

@[simp]
theorem verdicts_send (codes : List ResponseCode) :
    (server.send (.connection session) codes).verdicts session =
      server.verdicts session + codes.countP ResponseCode.isFinal := by
  simp [verdicts, send, Pianod.verdicts, List.countP_map, Function.comp_def, Recipient.reaches]

@[simp]
theorem verdicts_reply (code : ResponseCode) :
    (server.reply session code).verdicts session =
      server.verdicts session + if code.isFinal then 1 else 0 := by
  simp [reply, List.countP_cons]

/-- Lines without a final code give no verdict to anyone. -/
theorem verdicts_send_of_quiet (recipient : Recipient) {codes : List ResponseCode}
    (quiet : Quiet codes) :
    (server.send recipient codes).verdicts session = server.verdicts session := by
  have none_final : Pianod.verdicts session (codes.map fun code => ⟨recipient, code⟩) = 0 := by
    apply verdicts_eq_zero
    intro message member
    obtain ⟨code, there, rfl⟩ := List.mem_map.mp member
    exact quiet code there
  simp only [verdicts, send, verdicts_append, none_final]
  rfl

theorem verdicts_sendResponse {code : ResponseCode} (quiet : code.isFinal = false) :
    (server.sendResponse code).verdicts session = server.verdicts session :=
  server.verdicts_send_of_quiet session .service (by simp [quiet])

@[simp]
theorem verdicts_withApp (app : Application) :
    (server.withApp app).verdicts session = server.verdicts session := rfl

@[simp]
theorem verdicts_withStations (state : StationState) :
    (server.withStations state).verdicts session = server.verdicts session := rfl

theorem verdicts_notify {selects : UserContext → Bool} {code : ResponseCode}
    (quiet : code.isFinal = false) :
    (server.notify selects code).verdicts session = server.verdicts session := by
  have none_final : Pianod.verdicts session
      ((server.app.contexts.zipIdx.filter fun entry => selects entry.1).map fun entry =>
        ⟨.connection entry.2, code⟩) = 0 := by
    apply verdicts_eq_zero
    intro message member
    obtain ⟨entry, -, rfl⟩ := List.mem_map.mp member
    exact quiet
  simp only [verdicts, notify, verdicts_append, none_final]
  rfl

@[simp]
theorem verdicts_announceAction :
    server.announceAction.verdicts session = server.verdicts session := by
  unfold announceAction
  split
  · exact server.verdicts_sendResponse session rfl
  · rfl

@[simp]
theorem verdicts_announcePrivileges (user : Option UserRef) :
    (server.announcePrivileges user).verdicts session = server.verdicts session :=
  server.verdicts_notify session rfl

@[simp]
theorem verdicts_sendPrivileges :
    (server.sendPrivileges session).verdicts session = server.verdicts session :=
  server.verdicts_reply session _

@[simp]
theorem verdicts_sendStationRating :
    (server.sendStationRating session).verdicts session = server.verdicts session :=
  server.verdicts_reply session _

@[simp]
theorem verdicts_sendPlaybackStatus (there : Recipient) :
    (server.sendPlaybackStatus there).verdicts session = server.verdicts session := by
  unfold sendPlaybackStatus
  dsimp only
  split_ifs <;> exact server.verdicts_send_of_quiet session there (by decide)

theorem verdicts_sendSelectedStation {server after : Server} {there : Recipient}
    (sent : server.sendSelectedStation there = .ok after) :
    after.verdicts session = server.verdicts session := by
  unfold sendSelectedStation at sent
  split at sent
  · cases sent
  · cases sent
    exact server.verdicts_send_of_quiet session there (by decide)
  · cases sent
    exact server.verdicts_send_of_quiet session there (by decide)

/-! ## Descriptions of songs and stations -/

theorem dataLine_quiet {code : ResponseCode} (quiet : code.isFinal = false) (field : Option Text) :
    Quiet (dataLine code field) := by
  cases field with
  | none => exact .nil
  | some text => simpa [dataLine] using quiet

theorem songLines_quiet (app : Application) (song : PianoSong) (rated : Bool) :
    Quiet (songLines app song rated) := by
  have rating : Quiet (if rated then [.iRating] else []) := by
    cases rated <;> decide
  simp only [songLines, Quiet.append_iff]
  refine ⟨⟨⟨⟨⟨⟨by decide, dataLine_quiet rfl _⟩, by decide⟩, dataLine_quiet rfl _⟩, ?_⟩, rating⟩,
    dataLine_quiet rfl _⟩
  split
  · exact .nil
  · decide

@[simp]
theorem verdicts_sendSongInfo (song : PianoSong) :
    (server.sendSongInfo (.connection session) song).verdicts session =
    server.verdicts session := by
  exact server.verdicts_send_of_quiet session _ (songLines_quiet server.app song true)

@[simp]
theorem verdicts_sendSongList (songs : List PianoSong) :
    (server.sendSongList session songs).verdicts session = server.verdicts session + 1 := by
  have quiet : Quiet (songs.flatMap fun song =>
      .sData :: songLines server.app song true ++ [.iUserRating]) := by
    refine .flatMap fun song => ?_
    rw [List.cons_append, Quiet.cons_iff, Quiet.append_iff]
    exact ⟨rfl, songLines_quiet server.app song true, by decide⟩
  unfold sendSongList
  rw [verdicts_reply, verdicts_send_of_quiet _ session _ quiet]
  rfl

theorem verdicts_sendDetails (songs : List PianoSong) (rated : Bool) :
    (server.sendDetails session songs rated).verdicts session = server.verdicts session := by
  refine server.verdicts_send_of_quiet session _ (.flatMap fun song => ?_)
  rw [Quiet.cons_iff]
  exact ⟨rfl, songLines_quiet server.app song rated⟩

theorem verdicts_sendArtists (artists : List PianoArtist) (seeds : Bool) :
    (server.sendArtists session artists seeds).verdicts session = server.verdicts session := by
  refine server.verdicts_send_of_quiet session _ (.flatMap fun artist => ?_)
  cases seeds <;> decide

theorem verdicts_sendUsers (users : List User) (details : Bool) :
    (server.sendUsers session users details).verdicts session = server.verdicts session := by
  refine server.verdicts_send_of_quiet session _ (.flatMap fun user => ?_)
  cases details <;> decide

/-- Finding a user by name is silent, or else ends the answer. -/
theorem verdicts_getUserByName {server after : Server} {name : Text} {user : Option User}
    (found : server.getUserByName session name = (after, user)) :
    after.verdicts session = server.verdicts session + if user.isSome then 0 else 1 := by
  unfold getUserByName at found
  split at found <;> cases found
  · exact server.verdicts_reply session _
  · rfl

/-- So is checking a list of users. -/
theorem verdicts_validUserList {server after : Server} {names : List Text} {valid : Bool}
    (checked : server.validUserList session names = (after, valid)) :
    after.verdicts session = server.verdicts session + if valid then 0 else 1 := by
  unfold validUserList at checked
  dsimp only at checked
  split at checked <;> cases checked
  · rfl
  · rw [verdicts_reply, verdicts_send_of_quiet _ session _ (.map rfl)]
    rfl

/-! ## Transactions -/

private theorem failureCode_quiet (failure : TransactionFailure) :
    (failureCode failure).isFinal = false := by
  cases failure <;> rfl

@[simp]
theorem verdicts_barUiPianoCall (request : PianoRequest) :
    (server.barUiPianoCall world request).1.verdicts session = server.verdicts session := by
  unfold barUiPianoCall
  split
  · rfl
  · exact server.verdicts_sendResponse session (failureCode_quiet _)

/-- A request is silent without a session, and ends the answer with one. -/
theorem verdicts_pianoTransaction {server : Server} {event : Option Nat} {request : PianoRequest}
    {after : Server} {success : Bool}
    (asked : server.pianoTransaction world event request = (after, success))
    (own : event = none ∨ event = some session) :
    after.verdicts session = server.verdicts session + if event.isSome then 1 else 0 := by
  have called := server.verdicts_barUiPianoCall world session request
  unfold pianoTransaction at asked
  rcases own with rfl | rfl
  · obtain rfl := congrArg Prod.fst asked
    exact called
  · obtain rfl := congrArg Prod.fst asked
    dsimp only
    rw [verdicts_reply, called]
    split <;> rfl

theorem app_of_pianoTransaction {server after : Server} {event : Option Nat}
    {request : PianoRequest} {success : Bool}
    (asked : server.pianoTransaction world event request = (after, success)) :
    after.app = server.app := by
  have same := pianoTransaction_app world server event request
  rwa [asked] at same

theorem verdicts_ask {server after : Server} {request : PianoRequest} {success : Bool}
    (asked : server.pianoTransaction world none request = (after, success)) :
    after.verdicts session = server.verdicts session :=
  verdicts_pianoTransaction world session asked (.inl rfl)

theorem verdicts_perform {server after : Server} {request : PianoRequest} {success : Bool}
    (asked : server.pianoTransaction world (some session) request = (after, success)) :
    after.verdicts session = server.verdicts session + 1 :=
  verdicts_pianoTransaction world session asked (.inr rfl)

@[simp]
theorem verdicts_tunerNotices (notices : List TunerNotice) :
    (notices.foldl (tunerNotice world) server).verdicts session = server.verdicts session := by
  induction notices generalizing server with
  | nil => rfl
  | cons notice notices ih =>
      rw [List.foldl_cons, ih]
      cases notice with
      | status text => exact server.verdicts_sendResponse session rfl
      | setQuickmix => exact verdicts_ask world session rfl
      | mixChanged => exact server.verdicts_sendResponse session rfl

theorem verdicts_recomputeStations {server after : Server}
    (computed : server.recomputeStations world = .ok after) :
    after.verdicts session = server.verdicts session := by
  unfold recomputeStations at computed
  split at computed
  · cases computed
  · cases computed
    simp

/-! ## Stations -/

variable {server after : Server}

theorem isSome_findStationById {stations : List StationCell} {cell : StationCell}
    (member : cell ∈ stations) : (pianoFindStationById stations cell.station.id).isSome := by
  rw [pianoFindStationById, List.find?_isSome]
  exact ⟨cell, member, by simp⟩

/-- Asking for a station that is not listed is answered with no more than a detail. -/
theorem verdicts_pwnStation {stationId : Text} {owned : Bool}
    (pwned : server.pwnStation world session stationId = (after, owned)) :
    after.verdicts session = server.verdicts session +
      if owned = false ∧ (pianoFindStationById server.app.stationState.stations stationId).isSome
        then 1 else 0 := by
  unfold pwnStation at pwned
  split at pwned
  · rename_i missing
    cases pwned
    simp [missing, ResponseCode.isFinal, ResponseCode.value]
  · rename_i cell found
    split at pwned
    · cases pwned
      simp
    · split at pwned
      · rename_i asked
        cases pwned
        rw [verdicts_reply, verdicts_ask world session asked]
        simp [found, ResponseCode.isFinal, ResponseCode.value]
      · rename_i asked
        cases pwned
        rw [verdicts_reply, verdicts_withApp, verdicts_ask world session asked]
        simp [ResponseCode.isFinal, ResponseCode.value]

/-- For a listed station there is one final status or possession. -/
theorem verdicts_pwnStation_of_mem {cell : StationCell} {owned : Bool}
    (pwned : server.pwnStation world session cell.station.id = (after, owned))
    (member : cell ∈ server.app.stationState.stations) :
    after.verdicts session = server.verdicts session + if owned then 0 else 1 := by
  rw [verdicts_pwnStation world session pwned]
  simp only [isSome_findStationById member, and_true]
  cases owned <;> rfl

/-- A listed station is possessed once it is owned or can be transformed. -/
theorem owned_of_pwnStation {stationId : Text} {cell : StationCell} {owned : Bool}
    (pwned : server.pwnStation world session stationId = (after, owned))
    (found : pianoFindStationById server.app.stationState.stations stationId = some cell) :
    owned = (server.app.isCreator cell.address || (world.failure .transformStation).isNone) := by
  unfold pwnStation at pwned
  rw [found] at pwned
  dsimp only at pwned
  cases creator : server.app.isCreator cell.address with
  | true =>
      rw [creator, if_pos rfl] at pwned
      cases pwned
      rfl
  | false =>
      rw [creator, if_neg Bool.false_ne_true] at pwned
      cases failing : world.failure .transformStation with
      | none =>
          rw [pianoTransaction_of_success world failing] at pwned
          cases pwned
          rfl
      | some failure =>
          rw [pianoTransaction_of_failure world failing] at pwned
          cases pwned
          rfl

/-- Finding a station is silent, or else ends the answer. -/
theorem verdicts_getStationByNameOrCurrent {name : Option Text} {found : Option StationCell}
    (searched : server.getStationByNameOrCurrent session name = .ok (after, found)) :
    after.verdicts session = server.verdicts session + if found.isSome then 0 else 1 := by
  unfold getStationByNameOrCurrent at searched
  dsimp only at searched
  split at searched
  · split at searched <;> cases searched
    · rfl
    · exact server.verdicts_reply session _
  · split at searched
    · cases searched
    · split at searched <;> cases searched
      · rfl
      · exact server.verdicts_reply session _
    · cases searched
      exact server.verdicts_reply session _

/-- A station that was found is in the list. -/
theorem mem_of_getStationByNameOrCurrent {name : Option Text} {cell : StationCell}
    (searched : server.getStationByNameOrCurrent session name = .ok (after, some cell)) :
    cell ∈ after.app.stationState.stations := by
  unfold getStationByNameOrCurrent at searched
  dsimp only at searched
  split at searched
  · split at searched <;> cases searched
    rename_i found
    exact List.mem_of_find?_eq_some found
  · split at searched
    · cases searched
    · rename_i selected _
      split at searched <;> cases searched
      unfold StationState.selectedCell at selected
      split at selected
      · cases selected
      · split at selected <;> cases selected
        rename_i found
        exact List.mem_of_find?_eq_some found
    · cases searched

private theorem quiet_mixDetails (stations : List StationCell) (names : List Text) :
    Quiet (names.flatMap fun name =>
      match pianoFindStationByName stations name with
      | some cell => if cell.station.isQuickMix then [.iStationInvalid] else []
      | none => [.iNotFound]) := by
  refine .flatMap fun name => ?_
  split
  · split <;> decide
  · decide

theorem verdicts_changeMix {command : MixCommand} {names : List Text}
    (changed : server.changeMix world session command names = .ok after) :
    after.verdicts session = server.verdicts session + 1 := by
  have details := quiet_mixDetails server.app.stationState.stations
  unfold changeMix at changed
  split at changed
  · rename_i validated
    cases changed
    obtain rfl := congrArg Prod.fst validated
    rw [verdicts_reply]
    exact congrArg (· + 1) (verdicts_send_of_quiet _ session _ (details names))
  · rename_i checked validated
    have silent : checked.verdicts session = server.verdicts session := by
      obtain rfl := congrArg Prod.fst validated
      exact verdicts_send_of_quiet _ session _ (details names)
    split at changed
    · cases changed
    · rename_i manipulated response mixed
      cases changed
      unfold manipulateQuickmix at mixed
      dsimp only at mixed
      split at mixed
      · cases mixed
      · split at mixed
        · split at mixed
          · rename_i asked
            cases mixed
            have sent := verdicts_ask world session asked
            rw [verdicts_reply, verdicts_announceAction, verdicts_sendResponse _ session rfl, sent,
              verdicts_withStations, silent]
            rfl
          · rename_i asked
            cases mixed
            have sent := verdicts_ask world session asked
            rw [verdicts_reply, sent, verdicts_withStations, silent]
            rfl
        · cases mixed
          rw [verdicts_reply, verdicts_withStations, silent]
          rfl

/-- A new station does not belong to the account: the record found under its id is not owned. -/
def newStationForeign (world : World) (app : Application) : Bool :=
  (pianoFindStationById (app.stationState.insertCreated world.createdStation.1).stations
    world.createdStation.1.id).any fun cell =>
      !Function.update app.isCreator app.stationState.nextAddress world.createdStation.2
        cell.address

/-- A station gets created under a name, but cannot be taken possession of. -/
def FailsToName (world : World) (app : Application) (name : Option Text) : Prop :=
  name.isSome ∧ world.failure .createStation = none ∧ newStationForeign world app ∧
    (world.failure .transformStation).isSome

instance (world : World) (app : Application) (name : Option Text) :
    Decidable (FailsToName world app name) :=
  inferInstanceAs (Decidable (_ ∧ _))

/-- Naming a new station is silent, unless it has to be taken possession of first and this fails. -/
theorem verdicts_renameNewStation {name : Option Text} {cell : StationCell}
    (last : server.app.stationState.stations.getLast? = some cell) :
    (server.renameNewStation world session name).verdicts session = server.verdicts session +
      if name.isSome ∧ ((pianoFindStationById server.app.stationState.stations
        cell.station.id).any fun found => !server.app.isCreator found.address) ∧
          (world.failure .transformStation).isSome then 1 else 0 := by
  cases name with
  | none => simp [renameNewStation]
  | some name =>
      have listed := isSome_findStationById (List.mem_of_getLast? last)
      obtain ⟨found, by_id⟩ := Option.isSome_iff_exists.mp listed
      simp only [renameNewStation, last]
      split
      · rename_i pwned
        have failed := owned_of_pwnStation world session pwned by_id
        obtain ⟨foreign, failing⟩ := Bool.or_eq_false_iff.mp failed.symm
        rw [verdicts_pwnStation_of_mem world session pwned (List.mem_of_getLast? last),
          if_neg Bool.false_ne_true, if_pos]
        exact ⟨rfl, by simp [by_id, foreign], Option.isNone_eq_false_iff.mp failing⟩
      · rename_i pwned
        have owned := owned_of_pwnStation world session pwned by_id
        have silent : ¬((server.app.isCreator found.address = false) ∧
            (world.failure .transformStation).isSome) := by
          rintro ⟨foreign, failing⟩
          simp [foreign, Option.isNone_eq_false_iff.mpr failing] at owned
        have possessed := verdicts_pwnStation_of_mem world session pwned (List.mem_of_getLast? last)
        rw [if_neg (by simpa [by_id] using silent), Nat.add_zero]
        split
        · rename_i asked
          rw [verdicts_withStations, verdicts_ask world session asked, possessed]
          rfl
        · rename_i asked
          rw [verdicts_reply, verdicts_ask world session asked, possessed]
          rfl

/-- Creating a station ends the answer, and ends it again if the station cannot be named. -/
theorem verdicts_createStation (name : Option Text) :
    (server.createStation world session name).verdicts session = server.verdicts session + 1 +
      if FailsToName world server.app name then 1 else 0 := by
  unfold createStation
  split
  · rename_i asked
    have failed : world.failure .createStation ≠ none := by
      intro success
      rw [pianoTransaction_of_success world success] at asked
      cases asked
    rw [verdicts_perform world session asked, if_neg fun fails => failed fails.2.1]
  · rename_i told asked
    have success : world.failure .createStation = none := by
      cases known : world.failure .createStation with
      | none => rfl
      | some failure =>
          rw [pianoTransaction_of_failure world known] at asked
          cases asked
    have same := app_of_pianoTransaction world asked
    rw [verdicts_announceAction, verdicts_sendResponse _ session rfl,
      verdicts_renameNewStation world session (StationState.getLast?_insertCreated _ _),
      verdicts_withApp, verdicts_perform world session asked]
    simp [FailsToName, newStationForeign, success, same]

theorem verdicts_renameStation {fromName toName : Text}
    (renamed : server.renameStation world session fromName toName = .ok after) :
    after.verdicts session = server.verdicts session + 1 := by
  unfold renameStation at renamed
  split at renamed
  · cases renamed
  · rename_i cell found
    have listed := List.mem_of_find?_eq_some found
    split at renamed
    · rename_i pwned
      cases renamed
      exact verdicts_pwnStation_of_mem world session pwned listed
    · rename_i pwned
      have possessed := verdicts_pwnStation_of_mem world session pwned listed
      split at renamed
      · rename_i asked
        cases renamed
        rw [verdicts_perform world session asked, possessed]
        rfl
      · rename_i asked
        cases renamed
        rw [verdicts_announceAction, verdicts_sendResponse _ session rfl, verdicts_withStations,
          verdicts_perform world session asked, possessed]
        rfl

theorem verdicts_deleteStation (name : Text) :
    (server.deleteStation world session name).verdicts session = server.verdicts session + 1 := by
  unfold deleteStation
  split
  · exact server.verdicts_reply session _
  · dsimp only
    split
    · rename_i asked
      rw [verdicts_perform world session asked, verdicts_withStations]
    · rename_i asked
      rw [verdicts_announceAction, verdicts_sendResponse _ session rfl, verdicts_withStations,
        verdicts_perform world session asked, verdicts_withStations]

private theorem stationChanges_quiet (old new : List StationCell) :
    Quiet (stationChanges old new) := by
  unfold stationChanges
  dsimp only
  rw [Quiet.append_iff]
  constructor <;> split <;> decide

/-- Refreshing the station list ends nobody's answer, nor anybody's waiting. -/
theorem verdicts_updateStationList (updated : server.updateStationList world = .ok after) :
    after.verdicts session = server.verdicts session ∧
      after.app.contexts = server.app.contexts := by
  unfold updateStationList at updated
  dsimp only at updated
  split at updated
  · cases updated
    exact ⟨rfl, rfl⟩
  · split at updated
    · rename_i asked
      cases updated
      have same := congrArg Application.contexts (app_of_pianoTransaction world asked)
      rw [verdicts_withApp, verdicts_ask world session asked]
      exact ⟨rfl, same⟩
    · rename_i asked
      have same := congrArg Application.contexts (app_of_pianoTransaction world asked)
      split at updated
      · cases updated
      · cases updated
        refine ⟨?_, ?_⟩
        · have quiet := stationChanges_quiet server.app.stationState.stations
          split
          · rw [verdicts_send_of_quiet _ session .service (by decide),
              verdicts_send_of_quiet _ session .service (quiet _), verdicts_withApp]
            exact verdicts_ask world session asked
          · rw [verdicts_send_of_quiet _ session .service (quiet _), verdicts_withApp]
            exact verdicts_ask world session asked
        · split <;> exact same

/-! ## Songs, seeds and searches -/

private theorem songAt_of_findSong {app : Application} {songId : Text} {place : SongPlace}
    (found : app.findSong songId = some place) : (app.songAt place).isSome := by
  unfold Application.findSong Application.pianoFindSongById at found
  split at found
  · rename_i index _ searched
    cases found
    obtain ⟨there, -⟩ := List.findIdx?_eq_some_iff_getElem.mp searched
    simp [Application.songAt, there]
  · rename_i index _ searched
    cases found
    obtain ⟨there, -⟩ := List.findIdx?_eq_some_iff_getElem.mp searched
    simp [Application.songAt, there]
  · split at found
    · rename_i listed
      cases found
      cases current : app.currentSong with
      | none => simp [current] at listed
      | some song => simp [Application.songAt, current]
    · cases found

/-- The track a command is about. -/
def requestedSong (app : Application) (songId : Option Text) : Option PianoSong :=
  match songId with
  | some songId => (app.findSong songId).bind app.songAt
  | none => app.currentSong

/-- Finding a song is silent, or else ends the answer. -/
theorem verdicts_getSongByIdOrCurrent {songId : Option Text}
    {found : Option (SongPlace × PianoSong)}
    (searched : server.getSongByIdOrCurrent session songId = (after, found)) :
    after.verdicts session = server.verdicts session + (if found.isSome then 0 else 1) ∧
      after.app = server.app ∧ found.map Prod.snd = requestedSong server.app songId := by
  unfold getSongByIdOrCurrent at searched
  split at searched
  · split at searched
    · rename_i missing
      cases searched
      exact ⟨server.verdicts_reply session _, rfl, by simp [requestedSong, missing]⟩
    · rename_i place known
      cases searched
      obtain ⟨song, there⟩ := Option.isSome_iff_exists.mp (songAt_of_findSong known)
      simp [requestedSong, known, there]
  · split at searched
    · rename_i missing
      cases searched
      exact ⟨server.verdicts_reply session _, rfl, by simp [requestedSong, missing]⟩
    · rename_i song known
      cases searched
      simp [requestedSong, known]

variable (server)

@[simp]
theorem verdicts_sendSongLists (history : Bool) (index : Option Int) :
    (server.sendSongLists session history index).verdicts session =
      server.verdicts session + 1 := by
  unfold sendSongLists
  dsimp only
  split
  · exact server.verdicts_sendSongList session _
  · split
    · split
      · exact server.verdicts_reply session _
      · exact server.verdicts_sendSongList session _
    · split
      · exact server.verdicts_reply session _
      · rw [verdicts_reply, verdicts_sendStationRating, verdicts_sendSongInfo, verdicts_reply]
        rfl

@[simp]
theorem verdicts_getStationInfo (stationId : Text) :
    (server.getStationInfo world stationId).1.verdicts session = server.verdicts session := by
  obtain ⟨told, success, asked⟩ : ∃ told success,
      server.pianoTransaction world none (.getStationInfo stationId) = (told, success) :=
    ⟨_, _, rfl⟩
  have silent := verdicts_ask world session asked
  unfold getStationInfo
  rw [asked]
  dsimp only
  split
  · cases success <;> exact silent
  · split
    · cases success <;> exact silent
    · rfl

@[simp]
theorem verdicts_applyStationInfoToSongs (songs : List PianoSong) :
    (server.applyStationInfoToSongs world songs).1.verdicts session = server.verdicts session := by
  induction songs generalizing server with
  | nil => rfl
  | cons song songs ih =>
      unfold applyStationInfoToSongs
      split
      · exact ih server
      · rename_i cell _
        have asked := ih (server.getStationInfo world cell.station.id).1
        rw [verdicts_getStationInfo] at asked
        dsimp only
        split <;> exact asked

@[simp]
theorem verdicts_applyStationInfo :
    (server.applyStationInfo world).verdicts session = server.verdicts session := by
  simp [applyStationInfo]

@[simp]
theorem verdicts_expireStationInfo (stationId : Text) :
    (server.expireStationInfo world stationId).verdicts session = server.verdicts session := by
  unfold expireStationInfo
  split
  · rfl
  · simp

@[simp]
theorem verdicts_expireStationInfoBySong (place : SongPlace) (song : PianoSong) :
    (server.expireStationInfoBySong world place song).verdicts session =
      server.verdicts session := by
  unfold expireStationInfoBySong
  dsimp only
  split
  · rw [verdicts_sendResponse _ session rfl, verdicts_expireStationInfo]
  · exact verdicts_expireStationInfo world session server _

theorem verdicts_sendStationInfo (station : StationCell) :
    (server.sendStationInfo world session station).verdicts session =
      server.verdicts session + 1 := by
  have retrieved := server.verdicts_getStationInfo world session station.station.id
  unfold sendStationInfo
  split
  · rename_i asked
    rw [asked] at retrieved
    rw [verdicts_reply, retrieved]
    rfl
  · rename_i asked
    rw [asked] at retrieved
    have seeds (info : StationInfo) : Quiet (info.stationSeeds.flatMap fun _ =>
        [.sData, .iId, .iStation, .iRating]) :=
      .flatMap fun _ => by decide
    dsimp only
    rw [verdicts_reply, verdicts_sendDetails, verdicts_sendDetails, verdicts_sendArtists,
      verdicts_send_of_quiet _ session _ (seeds _), retrieved]
    rfl

/-- A song is to be loved or hated whose station is not listed. -/
def LacksStation (app : Application) (command : RateCommand) (songId : Option Text) : Prop :=
  (command = .love ∨ command = .hate) ∧ (requestedSong app songId).any fun song =>
    (pianoFindStationById app.stationState.stations song.stationId).isNone

instance (app : Application) (command : RateCommand) (songId : Option Text) :
    Decidable (LacksStation app command songId) :=
  inferInstanceAs (Decidable (_ ∧ _))

/-- Loving and hating take possession of the station first, which leaves the answer open if it is
not listed. -/
theorem verdicts_rateOwned {server told : Server} {place : SongPlace} {song : PianoSong}
    {rating : SongRating} (silent : told.verdicts session = server.verdicts session) :
    (match told.pwnStation world session song.stationId with
      | (server, false) => server
      | (server, true) =>
          if rating = song.rating then server.reply session .sOk
          else
            match server.pianoTransaction world (some session) .rateSong with
            | (server, false) => server
            | (server, true) =>
                (server.withApp (server.app.modifySong place fun song =>
                  { song with rating := rating })).expireStationInfoBySong world place
                    song).verdicts session =
      server.verdicts session +
        if (pianoFindStationById told.app.stationState.stations song.stationId).isNone then 0
        else 1 := by
  split
  · rename_i pwned
    rw [verdicts_pwnStation world session pwned, silent]
    cases pianoFindStationById told.app.stationState.stations song.stationId <;> rfl
  · rename_i pwned
    have listed : (pianoFindStationById told.app.stationState.stations
        song.stationId).isNone = false := by
      cases known : pianoFindStationById told.app.stationState.stations song.stationId with
      | none =>
          unfold pwnStation at pwned
          rw [known] at pwned
          cases pwned
      | some cell => rfl
    have possessed := verdicts_pwnStation world session pwned
    rw [listed, if_neg Bool.false_ne_true]
    split
    · rw [verdicts_reply, possessed, silent]
      rfl
    · split
      · rename_i asked
        rw [verdicts_perform world session asked, possessed, silent]
        rfl
      · rename_i asked
        rw [verdicts_expireStationInfoBySong, verdicts_withApp,
          verdicts_perform world session asked, possessed, silent]
        rfl

theorem verdicts_rateSong (command : RateCommand) (songId : Option Text) :
    (server.rateSong world session command songId).verdicts session =
      server.verdicts session + if LacksStation server.app command songId then 0 else 1 := by
  unfold rateSong
  split
  · rename_i told searched
    obtain ⟨found, -, requested⟩ := verdicts_getSongByIdOrCurrent session searched
    rw [if_neg (by simp [LacksStation, ← requested])]
    exact found
  · rename_i told place song searched
    obtain ⟨found, same, requested⟩ := verdicts_getSongByIdOrCurrent session searched
    have lacks : LacksStation server.app command songId ↔ (command = .love ∨ command = .hate) ∧
        (pianoFindStationById told.app.stationState.stations song.stationId).isNone := by
      simp [LacksStation, ← requested, same]
    cases command with
    | overplayed =>
        have served : ¬LacksStation server.app .overplayed songId := by simp [lacks]
        rw [if_neg served]
        exact (verdicts_perform world session rfl).trans (congrArg (· + 1) found)
    | neutral =>
        have served : ¬LacksStation server.app .neutral songId := by simp [lacks]
        rw [if_neg served]
        dsimp only
        have refreshed := told.verdicts_applyStationInfo world session
        split
        · have silent : told.verdicts session = server.verdicts session := found
          rw [verdicts_reply, refreshed, silent]
          split <;> rfl
        · split
          · rename_i asked
            rw [verdicts_perform world session asked, refreshed, found]
            rfl
          · rename_i asked
            rw [verdicts_expireStationInfoBySong, verdicts_withApp,
              verdicts_perform world session asked, refreshed, found]
            rfl
    | love =>
        refine (@verdicts_rateOwned world session server told place song .love found).trans ?_
        simp only [lacks, reduceCtorEq, true_or, true_and]
    | hate =>
        refine (@verdicts_rateOwned world session server told place song .ban found).trans ?_
        simp only [lacks, reduceCtorEq, or_true, true_and]

theorem verdicts_removeSongSeed (artist : Bool) (songId : Option Text) :
    (server.removeSongSeed world session artist songId).verdicts session =
      server.verdicts session + 1 := by
  unfold removeSongSeed
  split
  · rename_i searched
    exact (verdicts_getSongByIdOrCurrent session searched).1
  · rename_i told place song searched
    have found : told.verdicts session = server.verdicts session :=
      (verdicts_getSongByIdOrCurrent session searched).1
    have performed : (match told.pianoTransaction world (some session) .deleteSeed with
        | (server, false) => server
        | (server, true) => server.expireStationInfoBySong world place song).verdicts session =
          server.verdicts session + 1 := by
      split
      · rename_i asked
        rw [verdicts_perform world session asked, found]
      · rename_i asked
        rw [verdicts_expireStationInfoBySong, verdicts_perform world session asked, found]
    have refused : (told.reply session .eInvalid).verdicts session =
        server.verdicts session + 1 := by
      rw [verdicts_reply, found]
      rfl
    dsimp only
    rw [apply_ite (verdicts · session)]
    exact (ite_congr rfl (fun _ => refused) fun _ => performed).trans (ite_self _)

@[simp]
theorem verdicts_addSeedTo (stationId : Text) :
    (server.addSeedTo world session stationId).verdicts session =
      server.verdicts session + 1 := by
  unfold addSeedTo
  split
  · rename_i asked
    exact verdicts_perform world session asked
  · rename_i asked
    rw [verdicts_expireStationInfo, verdicts_perform world session asked]

theorem verdicts_addSeed {server after : Server} {stationName : Option Text} {suggestionId : Text}
    (added : server.addSeed world session stationName suggestionId = .ok after) :
    after.verdicts session = server.verdicts session + 1 := by
  unfold addSeed at added
  split at added
  · cases added
  · rename_i searched
    cases added
    exact verdicts_getStationByNameOrCurrent session searched
  · rename_i searched
    have found := verdicts_getStationByNameOrCurrent session searched
    have listed := mem_of_getStationByNameOrCurrent session searched
    split at added
    · split at added
      · rename_i pwned
        cases added
        rw [verdicts_pwnStation_of_mem world session pwned listed, found]
        rfl
      · rename_i pwned
        cases added
        rw [verdicts_addSeedTo, verdicts_pwnStation_of_mem world session pwned listed, found]
        rfl
    · cases added
      rw [verdicts_reply, found]
      rfl

theorem verdicts_addSongSeed (stationName : Option Text) (artist : Bool) (songId : Option Text) :
    (server.addSongSeed world session stationName artist songId).verdicts session =
      server.verdicts session + 1 := by
  unfold addSongSeed
  split
  · rename_i searched
    exact (verdicts_getSongByIdOrCurrent session searched).1
  · rename_i told _ song searched
    have found := (verdicts_getSongByIdOrCurrent session searched).1
    dsimp only
    split
    · rw [verdicts_reply, found]
      rfl
    · rename_i cell known
      have listed : cell ∈ told.app.stationState.stations := by
        split at known <;> exact List.mem_of_find?_eq_some known
      split
      · rename_i pwned
        rw [verdicts_pwnStation_of_mem world session pwned listed, found]
        rfl
      · rename_i pwned
        have possessed := verdicts_pwnStation_of_mem world session pwned listed
        split
        · rename_i asked
          rw [verdicts_reply, verdicts_ask world session asked, possessed, found]
          rfl
        · rename_i asked
          have searched := verdicts_ask world session asked
          split
          · rw [verdicts_reply, searched, possessed, found]
            rfl
          · rw [verdicts_addSeedTo, searched, possessed, found]
            rfl

theorem verdicts_removeSeed (seedId : Text) :
    (server.removeSeed world session seedId).verdicts session = server.verdicts session + 1 := by
  unfold removeSeed
  dsimp only
  split
  · exact server.verdicts_reply session _
  · exact server.verdicts_reply session _
  · split
    · rename_i asked
      exact verdicts_perform world session asked
    · rename_i asked
      rw [verdicts_applyStationInfo, verdicts_withApp, verdicts_perform world session asked]
  · split
    · rename_i asked
      exact verdicts_perform world session asked
    · rename_i asked
      rw [verdicts_applyStationInfo, verdicts_withApp, verdicts_perform world session asked]

theorem verdicts_createStationFromSong (name songId : Option Text) :
    (server.createStationFromSong world session name songId).verdicts session =
      server.verdicts session + 1 +
        if (requestedSong server.app songId).isSome ∧ FailsToName world server.app name then 1
        else 0 := by
  unfold createStationFromSong
  split
  · rename_i searched
    obtain ⟨found, -, requested⟩ := verdicts_getSongByIdOrCurrent session searched
    rw [if_neg (by simp [← requested])]
    exact found
  · rename_i told _ searched
    obtain ⟨found, same, requested⟩ := verdicts_getSongByIdOrCurrent session searched
    rw [verdicts_createStation, found, same]
    simp [← requested]

theorem verdicts_createStationFromShared (name : Option Text) (stationId : Text) :
    (server.createStationFromShared world session name stationId).verdicts session =
      server.verdicts session + 1 +
        if stationId.all isdigit ∧ FailsToName world server.app name then 1 else 0 := by
  unfold createStationFromShared
  split
  · rename_i digits
    rw [verdicts_createStation]
    simp only [digits, true_and]
  · rename_i other
    simp only [other, Bool.false_eq_true, false_and, if_false]
    exact server.verdicts_reply session _

theorem verdicts_createStationFromSuggestion (name : Option Text) (suggestionId : Text) :
    (server.createStationFromSuggestion world session name suggestionId).verdicts session =
      server.verdicts session + 1 +
        if isSuggestion suggestionId ∧ FailsToName world server.app name then 1 else 0 := by
  unfold createStationFromSuggestion
  split
  · rename_i suggestion
    rw [verdicts_createStation]
    simp only [suggestion, true_and]
  · rename_i other
    simp only [other, Bool.false_eq_true, false_and, if_false]
    exact server.verdicts_reply session _

theorem verdicts_explainSongChoice (songId : Option Text) :
    (server.explainSongChoice world session songId).verdicts session =
      server.verdicts session + 1 := by
  unfold explainSongChoice
  split
  · rename_i searched
    exact (verdicts_getSongByIdOrCurrent session searched).1
  · rename_i searched
    have found := (verdicts_getSongByIdOrCurrent session searched).1
    split
    · rename_i asked
      rw [verdicts_reply, verdicts_ask world session asked, found]
      rfl
    · rename_i asked
      rw [verdicts_send, verdicts_ask world session asked, found]
      rfl

theorem verdicts_createBookmark (artist : Bool) (songId : Option Text) :
    (server.createBookmark world session artist songId).verdicts session =
      server.verdicts session + 1 := by
  unfold createBookmark
  split
  · rename_i searched
    exact (verdicts_getSongByIdOrCurrent session searched).1
  · rename_i searched
    have found := (verdicts_getSongByIdOrCurrent session searched).1
    exact (verdicts_perform world session rfl).trans (congrArg (· + 1) found)

private theorem verdicts_sendGenres (term : Text) :
    (server.sendGenres world session term).verdicts session = server.verdicts session := by
  have listed (server : Server) : (server.send (.connection session)
      (server.app.genreStations.flatMap fun category =>
        (category.2.filter fun genre => strcasestr category.1 term || strcasestr genre term).flatMap
          fun _ => [.sData, .iId, .iGenre, .iStation])).verdicts session =
        server.verdicts session :=
    server.verdicts_send_of_quiet session _ (.flatMap fun _ => .flatMap fun _ => by decide)
  unfold sendGenres
  dsimp only
  split
  · split
    · rename_i asked
      exact verdicts_ask world session asked
    · rename_i asked
      rw [listed, verdicts_withApp, verdicts_ask world session asked]
  · exact listed server

theorem verdicts_sendSuggestions (kind : SuggestionKind) (term : Text) (results : SearchResult) :
    (server.sendSuggestions world session kind term results).verdicts session =
      server.verdicts session + 1 := by
  have maybe (condition : Prop) [Decidable condition] (server shown : Server)
      (silent : shown.verdicts session = server.verdicts session) :
      (if condition then shown else server).verdicts session = server.verdicts session := by
    split
    · exact silent
    · rfl
  unfold sendSuggestions
  dsimp only
  rw [verdicts_reply, maybe _ _ _ (verdicts_sendGenres world session _ term),
    maybe _ _ _ (verdicts_sendDetails _ session results.songs false),
    maybe _ _ _ (verdicts_sendArtists _ session results.artists false)]
  rfl

theorem verdicts_performQuery (kind : SuggestionKind) (term : Option Text) :
    (server.performQuery world session kind term).verdicts session =
      server.verdicts session + 1 := by
  unfold performQuery
  dsimp only
  split
  · exact server.verdicts_reply session _
  · exact server.verdicts_sendSuggestions world session _ _ _
  · split
    · exact server.verdicts_sendSuggestions world session _ _ _
    · split
      · rename_i asked
        rw [verdicts_reply, verdicts_ask world session asked, verdicts_withApp]
        rfl
      · rename_i asked
        rw [verdicts_sendSuggestions, verdicts_withApp, verdicts_ask world session asked,
          verdicts_withApp]

end Server

end Pianod
