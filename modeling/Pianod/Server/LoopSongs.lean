import Pianod.Server.PlayerLoop
import Pianod.Server.CommandEffects

/-!
# The songs of the player loop

Each song that was received waits in the queue, is current, is remembered in the history, or has
been freed, once.  There is a current song whenever the player thread is about, provided that no
song without an audio URL comes up: the loop goes on to describe the song that it has not started.
-/

namespace Pianod

open Foundation

namespace LoopState

/-- The received songs, wherever they are. -/
def songs (state : LoopState) : List Nat :=
  state.app.playlist.map (·.address) ++ state.app.currentSong.toList.map (·.address) ++
    state.app.songHistory.map (·.address) ++ state.freed

/-- Every received song is in exactly one place, or freed once. -/
def Owned (state : LoopState) : Prop := state.songs.Perm (List.range state.nextSong)

end LoopState

/-- The player loop and the current song agree. -/
structure SongsAgree (state : LoopState) : Prop where
  current : state.app.currentSong.isSome = true ↔ state.app.playerMode ≠ .freed
  owned : state.Owned
  /-- Skipping finds a song to skip. -/
  skip : ∀ world session sent fault,
    Server.nextSong world ⟨state.app, sent⟩ session ≠ .error fault

/-- A fault that has nothing to do with songs. -/
def LoopFault.Unrelated (fault : LoopFault) : Prop := ∃ other, fault = .other other

/-- Before a song is started it has an audio URL. -/
def LaunchesPlayable (state : LoopState) : LoopAction → Prop
  | .proceed _ =>
      match state.point with
      | .launch _ => ∀ song, state.app.playlist.head? = some song → song.audioUrl.isSome
      | _ => True
  | _ => True

/-- What the sections between two checks of the player's stage rely on. -/
def LoopState.Prepared (state : LoopState) : Prop :=
  match state.point with
  | .fetch => state.app.playerMode = .freed
  | .launch _ => state.app.playerMode = .freed ∧ state.app.playlist ≠ []
  | .announce _ => state.app.playerMode ≠ .freed
  | _ => True

/-- The invariant of the loop. -/
structure LoopKept (state : LoopState) : Prop where
  current : state.app.currentSong.isSome = true ↔ state.app.playerMode ≠ .freed
  owned : state.Owned
  historyLength : 0 < state.app.settings.historyLength
  prepared : state.Prepared

/-- Songs came, left the queue and were freed, but the current song and the player's stage are as
they were. -/
structure Rearranged (before after : LoopState) : Prop where
  owned : before.Owned → after.Owned
  currentSong : after.app.currentSong.isSome = before.app.currentSong.isSome
  playerMode : after.app.playerMode = before.app.playerMode
  historyLength : 0 < before.app.settings.historyLength → 0 < after.app.settings.historyLength
  point : after.point = before.point

namespace Rearranged

variable {first second third : LoopState}

theorem refl (state : LoopState) : Rearranged state state := ⟨id, rfl, rfl, id, rfl⟩

theorem trans (one : Rearranged first second) (two : Rearranged second third) :
    Rearranged first third where
  owned := fun owned => two.owned (one.owned owned)
  currentSong := two.currentSong.trans one.currentSong
  playerMode := two.playerMode.trans one.playerMode
  historyLength := fun positive => two.historyLength (one.historyLength positive)
  point := two.point.trans one.point

/-- What leaves the songs in place rearranges nothing. -/
theorem of_kept {before after : LoopState} (kept : SongsKept before.app after.app)
    (nextSong : after.nextSong = before.nextSong) (freed : after.freed = before.freed)
    (point : after.point = before.point) : Rearranged before after where
  owned := fun owned => by
    have current : after.app.currentSong.toList.map (·.address) =
        before.app.currentSong.toList.map (·.address) := by
      rw [← Option.toList_map, ← Option.toList_map, kept.currentSong]
    unfold LoopState.Owned LoopState.songs
    rw [kept.playlist, current, kept.songHistory, nextSong, freed]
    exact owned
  currentSong := by
    have same := congrArg Option.isSome kept.currentSong
    rw [Option.isSome_map, Option.isSome_map] at same
    exact same
  playerMode := kept.playerMode
  historyLength := kept.historyLength
  point := point

end Rearranged

namespace LoopKept

/-- Rearranging songs keeps the invariant where nothing relies on the queue. -/
theorem rearranged {before after : LoopState} (kept : LoopKept before)
    (moved : Rearranged before after) (prepared : after.Prepared) : LoopKept after where
  current := by
    rw [moved.currentSong, moved.playerMode]
    exact kept.current
  owned := moved.owned kept.owned
  historyLength := moved.historyLength kept.historyLength
  prepared := prepared

theorem goto {state : LoopState} (kept : LoopKept state) {point : LoopSection}
    (prepared : (state.goto point).Prepared) : LoopKept (state.goto point) :=
  ⟨kept.current, kept.owned, kept.historyLength, prepared⟩

/-- A player past its first stages has a song to skip. -/
theorem agree {state : LoopState} (kept : LoopKept state) : SongsAgree state where
  current := kept.current
  owned := kept.owned
  skip := by
    intro world session sent fault faulted
    unfold Server.nextSong at faulted
    split at faulted
    · rename_i started
      have active : state.app.playerMode ≠ .freed := by
        intro freed
        rw [show (Server.mk state.app sent).app.playerMode = .freed from freed] at started
        exact absurd started (by decide)
      obtain ⟨song, current⟩ := Option.isSome_iff_exists.mp (kept.current.mpr active)
      split at faulted
      · rename_i missing
        rw [show (Server.mk state.app sent).app.currentSong = some song from current] at missing
        cases missing
      · dsimp only at faulted
        split_ifs at faulted
    · cases faulted

end LoopKept

namespace LoopState

variable {state : LoopState}

/-! ## Songs come and go -/

private theorem allocateSongs_addresses (next : Nat) (songs : List PianoSong) :
    (allocateSongs next songs).map (·.address) = List.range' next songs.length := by
  induction songs generalizing next with
  | nil => rfl
  | cons song songs ih => simp [allocateSongs, List.range'_succ, ih]

private theorem splitUnselected_append {app : Application} {songs removed kept : List PianoSong}
    (split : app.splitUnselected songs = .ok (removed, kept)) : removed ++ kept = songs := by
  induction songs generalizing removed with
  | nil =>
      cases split
      rfl
  | cons song songs ih =>
      unfold Application.splitUnselected at split
      split at split
      · cases split
      · cases split
        rfl
      · split at split
        · cases split
        · rename_i later
          cases split
          rw [List.cons_append, ih later]

theorem rearranged_serve {handler : Server → Except Fault Server}
    (keeps : ∀ server, handler ⟨state.app, []⟩ = .ok server → SongsKept state.app server.app) :
    FallibleRun.Outcome (Rearranged state) LoopFault.Unrelated (state.serve handler) := by
  unfold serve
  split
  · exact ⟨_, rfl⟩
  · rename_i server handled
    exact .of_kept (keeps server handled) rfl rfl rfl

theorem rearranged_tell {handler : Server → Server}
    (keeps : SongsKept state.app (handler ⟨state.app, []⟩).app) :
    FallibleRun.Outcome (Rearranged state) LoopFault.Unrelated
      (state.serve fun server => .ok (handler server)) :=
  Rearranged.of_kept keeps rfl rfl rfl

theorem rearranged_event (event : WaitEvent) (response : ResponseCode) :
    FallibleRun.Outcome (Rearranged state) LoopFault.Unrelated
      (state.serve fun server => .ok (server.eventOccurred event response)) :=
  rearranged_tell (Server.songsKept_eventOccurred ⟨state.app, []⟩ event response)

/-- A new playlist brings new songs into an empty queue. -/
theorem rearranged_getPlayList (empty : state.app.playlist = []) (world : LoopWorld) :
    FallibleRun.Outcome (Rearranged state) LoopFault.Unrelated (state.getPlayList world) := by
  unfold getPlayList
  rw [if_neg (by simp [empty])]
  split
  · exact ⟨_, rfl⟩
  · split
    · exact .of_kept ⟨rfl, rfl, rfl, rfl, id⟩ rfl rfl rfl
    · refine ⟨fun owned => ?_, rfl, rfl, id, rfl⟩
      unfold Owned songs at owned ⊢
      rw [empty] at owned
      rw [allocateSongs_addresses]
      have received : List.range (state.nextSong + world.retPlaylist.length) =
          List.range state.nextSong ++ List.range' state.nextSong world.retPlaylist.length := by
        have split := @List.range'_append_1 0 state.nextSong world.retPlaylist.length
        rw [Nat.zero_add] at split
        rw [List.range_eq_range', List.range_eq_range', split]
      rw [received, List.append_assoc, List.append_assoc]
      rw [List.map_nil, List.nil_append, List.append_assoc] at owned
      exact List.perm_append_comm.trans (owned.append_right _)

theorem rearranged_purgeUnselectedSongs :
    FallibleRun.Outcome (Rearranged state) LoopFault.Unrelated state.purgeUnselectedSongs := by
  unfold purgeUnselectedSongs
  split
  · exact ⟨_, rfl⟩
  · rename_i removed kept split
    refine ⟨fun owned => ?_, rfl, rfl, id, rfl⟩
    unfold Owned songs at owned ⊢
    rw [← splitUnselected_append split] at owned
    refine .trans ?_ owned
    rw [List.perm_iff_count]
    intro address
    simp only [List.map_append, List.count_append]
    omega

private theorem rearranged_expire (now : Nat) : Rearranged state (state.expire now) := by
  unfold expire
  split
  · refine ⟨fun owned => ?_, rfl, rfl, id, rfl⟩
    unfold Owned songs at owned ⊢
    refine .trans ?_ owned
    rw [List.perm_iff_count]
    intro address
    simp only [List.map_nil, List.count_append, List.count_nil]
    omega
  · exact .refl state

/-! ## The sections -/

/-- A result that is rearranged from a rearranged state is rearranged from the first. -/
theorem rearranged_after {middle : LoopState} {result : Except LoopFault LoopState}
    (moved : Rearranged state middle)
    (later : FallibleRun.Outcome (Rearranged middle) LoopFault.Unrelated result) :
    FallibleRun.Outcome (Rearranged state) LoopFault.Unrelated result := by
  cases result with
  | error fault => exact later
  | ok last => exact Rearranged.trans moved later

theorem rearranged_updateStationList (world : World) :
    FallibleRun.Outcome (Rearranged state) LoopFault.Unrelated
      (state.serve (Server.updateStationList world)) :=
  rearranged_serve fun _ updated =>
    (Server.related_updateStationList bookkeeping_undisturbed world updated).toSongsKept

theorem serve_playlist {state after : LoopState} {handler : Server → Except Fault Server}
    (keeps : ∀ server, handler ⟨state.app, []⟩ = .ok server → SongsKept state.app server.app)
    (served : state.serve handler = .ok after) (empty : state.app.playlist = []) :
    after.app.playlist = [] := by
  unfold serve at served
  split at served
  · cases served
  · rename_i server handled
    cases served
    have same := (keeps server handled).playlist
    rw [empty] at same
    exact List.map_eq_nil_iff.mp same

theorem rearranged_prefetch (empty : state.app.playlist = []) (world : LoopWorld) :
    FallibleRun.Outcome (Rearranged state) LoopFault.Unrelated (state.prefetch world) := by
  have first := @rearranged_updateStationList state world.world
  unfold prefetch
  cases updated : state.serve (Server.updateStationList world.world) with
  | error fault =>
      rw [updated] at first
      exact first
  | ok middle =>
      rw [updated] at first
      have still : middle.app.playlist = [] := serve_playlist
        (fun _ updated => (Server.related_updateStationList bookkeeping_undisturbed world.world
          updated).toSongsKept) updated empty
      dsimp only
      split
      · have second := rearranged_getPlayList still world
        refine rearranged_after first ?_
        cases fetched : middle.getPlayList world with
        | error fault =>
            rw [fetched] at second
            exact second
        | ok last =>
            rw [fetched] at second
            exact rearranged_after second
              (rearranged_tell
                (Server.related_applyStationInfo bookkeeping_undisturbed world.world ⟨last.app,
                  []⟩).toSongsKept)
      · exact first

private theorem rearranged_checkStall (now : Nat) (songRemaining : Int) :
    Rearranged state (state.checkStall now songRemaining) := by
  unfold checkStall
  split
  · exact .of_kept ⟨rfl, rfl, rfl, rfl, id⟩ rfl rfl rfl
  · exact .of_kept ⟨rfl, rfl, rfl, rfl, id⟩ rfl rfl rfl

private theorem rearranged_checkPlayerStatus (song : state.app.currentSong.isSome = true)
    (world : LoopWorld) :
    FallibleRun.Outcome (Rearranged state) LoopFault.Unrelated (state.checkPlayerStatus world) := by
  unfold checkPlayerStatus
  split
  · split
    · rename_i missing
      rw [missing] at song
      cases song
    · have announced : Rearranged state { state with broadcastStatus := false } :=
        .of_kept ⟨rfl, rfl, rfl, rfl, id⟩ rfl rfl rfl
      exact rearranged_after announced (rearranged_event .trackStarted .sOk)
  · split
    · dsimp only
      split
      · rename_i fault stopped
        split at stopped
        · have purged := @rearranged_purgeUnselectedSongs state
          rw [stopped] at purged
          exact purged
        · cases stopped
      · rename_i middle purging
        have purged : Rearranged state middle := by
          split at purging
          · have purged := @rearranged_purgeUnselectedSongs state
            rw [purging] at purged
            exact purged
          · cases purging
            exact .refl state
        refine rearranged_after purged ?_
        split
        · rename_i fault stopped
          split at stopped
          · rename_i wanted
            simp only [Bool.and_eq_true, List.isEmpty_iff] at wanted
            have fetched := rearranged_prefetch wanted.1.1.2 world
            rw [stopped] at fetched
            exact fetched
          · cases stopped
        · rename_i last fetching
          refine Rearranged.trans ?_ (rearranged_checkStall world.world.now world.songRemaining)
          split at fetching
          · rename_i wanted
            simp only [Bool.and_eq_true, List.isEmpty_iff] at wanted
            have fetched := rearranged_prefetch wanted.1.1.2 world
            rw [fetching] at fetched
            exact fetched
          · cases fetching
            exact .refl middle
    · split
      · exact rearranged_tell (Server.songsKept_cancelPlayback world.world ⟨state.app, []⟩)
      · exact Rearranged.refl state

private theorem rearranged_changePianoSettings (initialises : Bool) :
    Rearranged state (state.changePianoSettings initialises) := by
  unfold changePianoSettings
  cases initialises with
  | true => exact .of_kept ⟨rfl, rfl, rfl, rfl, id⟩ rfl rfl rfl
  | false => exact .of_kept ⟨rfl, rfl, rfl, rfl, id⟩ rfl rfl rfl

private theorem rearranged_checkSignal (world : World) :
    FallibleRun.Outcome (Rearranged state) LoopFault.Unrelated (state.checkSignal world) := by
  unfold checkSignal
  split
  · have requested : Rearranged state { state with
        app := { state.app with quitRequested := true }
        shutdownSignalled := false } := .of_kept ⟨rfl, rfl, rfl, rfl, id⟩ rfl rfl rfl
    have told := Server.songsKept_cancelPlayback world
      ⟨{ state.app with quitRequested := true }, []⟩
    exact rearranged_after requested (rearranged_tell told)
  · exact Rearranged.refl state

theorem kept_of_outcome {result : Except LoopFault LoopState} (kept : LoopKept state)
    (moved : FallibleRun.Outcome (Rearranged state) LoopFault.Unrelated result)
    (prepared : ∀ after, Rearranged state after → after.Prepared) :
    FallibleRun.Outcome LoopKept LoopFault.Unrelated result := by
  cases result with
  | error fault => exact moved
  | ok after => exact kept.rearranged moved (prepared after moved)

/-- Nothing relies on the queue where the loop is. -/
def AtEase (state : LoopState) : Prop := ∀ other : LoopState, other.point = state.point →
  other.Prepared

theorem prepared_of_atEase (ease : state.AtEase) (after : LoopState)
    (moved : Rearranged state after) : after.Prepared := ease after moved.point

theorem atEase_goto {point : LoopSection} (ease : ∀ newList, point ≠ .fetch ∧
    point ≠ .launch newList ∧ point ≠ .announce newList) : (state.goto point).AtEase := by
  intro other same
  have there : other.point = point := same
  unfold Prepared
  rw [there]
  cases point with
  | fetch => exact absurd rfl (ease true).1
  | launch newList => exact absurd rfl (ease newList).2.1
  | announce newList => exact absurd rfl (ease newList).2.2
  | _ => trivial

/-- Most sections lead to one that relies on nothing. -/
theorem kept_at_ease {point : LoopSection} (kept : LoopKept state)
    (ease : (state.goto point).AtEase) : LoopKept (state.goto point) :=
  kept.goto (ease _ rfl)

@[simp]
theorem prependHistory_playerMode (song : PianoSong) :
    (state.prependHistory song).app.playerMode = state.app.playerMode := by
  unfold prependHistory
  dsimp only
  split <;> rfl

@[simp]
theorem prependHistory_settings (song : PianoSong) :
    (state.prependHistory song).app.settings = state.app.settings := by
  unfold prependHistory
  dsimp only
  split <;> rfl

@[simp]
theorem prependHistory_point (song : PianoSong) :
    (state.prependHistory song).point = state.point := by
  unfold prependHistory
  dsimp only
  split <;> rfl

/-- The song that ends becomes part of the history, where the oldest songs are freed. -/
theorem owned_prependHistory {song : PianoSong} (owned : state.Owned)
    (current : state.app.currentSong = some song)
    (historyLength : 0 < state.app.settings.historyLength) :
    let moved := state.prependHistory song
    (moved.withApp { moved.app with currentSong := none }).Owned := by
  unfold prependHistory
  rw [if_pos (by omega)]
  unfold Owned songs at owned ⊢
  rw [current] at owned
  refine .trans ?_ owned
  rw [List.perm_iff_count]
  intro address
  have parts := congrArg (List.count address) (congrArg (List.map (·.address))
    (List.take_append_drop state.app.settings.historyLength (song :: state.app.songHistory)))
  simp only [List.map_append, List.map_cons, List.count_append, List.count_cons] at parts
  simp only [withApp, Option.toList_none, Option.toList_some, List.map_nil, List.map_cons,
    List.count_append, List.count_cons, List.count_nil]
  omega

private theorem kept_playbackCleanup (kept : LoopKept state)
    (finished : state.app.playerMode = .finishedPlayback) (ease : state.AtEase)
    (ret : PlayerReturn) :
    FallibleRun.Outcome LoopKept LoopFault.Unrelated (state.playbackCleanup ret) := by
  have active : state.app.currentSong.isSome = true := kept.current.mpr (by rw [finished]; decide)
  obtain ⟨song, current⟩ := Option.isSome_iff_exists.mp active
  unfold playbackCleanup
  rw [current]
  dsimp only
  refine kept_of_outcome ?_ (rearranged_event .trackEnded .sOk)
    fun after moved => ease after ?_
  · refine ⟨?_, owned_prependHistory kept.owned current kept.historyLength, ?_, ?_⟩
    · simp [withApp]
    · simpa [withApp] using kept.historyLength
    · exact ease _ (by simp [withApp])
  · rw [moved.point]
    simp [withApp]

private theorem kept_startUp (kept : LoopKept state) :
    FallibleRun.Outcome LoopKept LoopFault.Unrelated state.startUp := by
  have monitor (before : LoopState) : (before.goto .monitor).AtEase := atEase_goto (by simp)
  unfold startUp
  dsimp only
  split
  · exact kept_at_ease kept (monitor state)
  · rename_i freed
    split
    · exact ⟨kept.current, kept.owned, kept.historyLength, trivial⟩
    · split
      · exact ⟨kept.current, kept.owned, kept.historyLength, trivial⟩
      · split
        · exact kept_at_ease kept (monitor state)
        · split
          · have purged := @rearranged_purgeUnselectedSongs state
            split
            · rename_i stopped
              rw [stopped] at purged
              exact purged
            · rename_i middle purging
              rw [purging] at purged
              have mode : middle.app.playerMode = .freed := by
                rw [purged.playerMode]
                exact not_not.mp freed
              refine ⟨?_, purged.owned kept.owned, purged.historyLength kept.historyLength, mode⟩
              have current := kept.current
              rw [← purged.currentSong, ← purged.playerMode] at current
              exact current
          · exact kept_at_ease kept (monitor state)

private theorem kept_fetch (kept : LoopKept state) (freed : state.app.playerMode = .freed)
    (world : LoopWorld) : FallibleRun.Outcome LoopKept LoopFault.Unrelated (state.fetch world) := by
  have arrives (after : LoopState) (newList : Bool) (moved : Rearranged state after) :
      LoopKept (after.goto (if after.app.playlist.isEmpty then .monitor else .launch newList)) := by
    have mode : after.app.playerMode = .freed := moved.playerMode.trans freed
    have current := kept.current
    rw [← moved.currentSong, ← moved.playerMode] at current
    refine ⟨current, moved.owned kept.owned, moved.historyLength kept.historyLength, ?_⟩
    split
    · trivial
    · rename_i waiting
      exact ⟨mode, fun empty => waiting (List.isEmpty_iff.mpr empty)⟩
  unfold fetch
  dsimp only
  by_cases empty : state.app.playlist = []
  · rw [if_pos (by simp [empty])]
    have first := @rearranged_updateStationList state world.world
    cases updated : state.serve (Server.updateStationList world.world) with
    | error fault =>
        rw [updated] at first
        exact first
    | ok middle =>
        rw [updated] at first
        dsimp only
        have still : middle.app.playlist = [] := serve_playlist
          (fun _ updated => (Server.related_updateStationList bookkeeping_undisturbed world.world
            updated).toSongsKept) updated empty
        by_cases selected : middle.app.stationState.selectedStation.isSome = true
        · rw [if_pos selected]
          have second := rearranged_after first (rearranged_getPlayList still world)
          cases fetched : middle.getPlayList world with
          | error fault =>
              rw [fetched] at second
              exact second
          | ok last =>
              rw [fetched] at second
              exact arrives last _ second
        · rw [if_neg selected]
          exact arrives middle _ first
  · rw [if_neg (by simp [empty])]
    exact arrives state _ (.refl state)

/-- A song with an audio URL becomes the current one. -/
theorem kept_launch (kept : LoopKept state) (freed : state.app.playerMode = .freed)
    (waiting : state.app.playlist ≠ [])
    (playable : ∀ song, state.app.playlist.head? = some song → song.audioUrl.isSome)
    (streams newList : Bool) :
    FallibleRun.Outcome LoopKept LoopFault.Unrelated (state.launch streams newList) := by
  have silent : state.app.currentSong = none := by
    rw [← Option.not_isSome_iff_eq_none, kept.current]
    exact not_not.mpr freed
  obtain ⟨song, later, queue⟩ := List.exists_cons_of_ne_nil waiting
  have url := playable song (by rw [queue]; rfl)
  obtain ⟨audioUrl, known⟩ := Option.isSome_iff_exists.mp url
  unfold launch playbackStart
  simp only [withApp, silent, queue, known, Option.isSome_none, Bool.false_eq_true, if_false]
  refine ⟨iff_of_true rfl nofun, ?_, kept.historyLength, nofun⟩
  have owned := kept.owned
  unfold Owned songs at owned ⊢
  rw [silent, queue] at owned
  refine .trans ?_ owned
  rw [List.perm_iff_count]
  intro address
  simp only [goto, Option.toList_some, Option.toList_none, List.map_cons, List.map_nil,
    List.count_append, List.count_cons, List.count_nil]
  omega

private theorem kept_announce (kept : LoopKept state) (active : state.app.playerMode ≠ .freed)
    (world : World) (newList : Bool) :
    FallibleRun.Outcome LoopKept LoopFault.Unrelated (state.announce world newList) := by
  have monitor : (state.goto .monitor).AtEase := atEase_goto (by simp)
  have song := kept.current.mpr active
  unfold announce
  split
  · rename_i missing
    rw [missing] at song
    cases song
  · split
    · have told := Server.related_applyStationInfo bookkeeping_undisturbed world
        ⟨(state.goto .monitor).app, []⟩
      exact kept_of_outcome (kept_at_ease kept monitor) (rearranged_tell told.toSongsKept)
        (prepared_of_atEase monitor)
    · exact kept_at_ease kept monitor

private theorem kept_runService (kept : LoopKept state) (ease : state.AtEase) (world : World)
    (crypt : Text → Text → Text) (event : ServiceEvent) :
    FallibleRun.Outcome (fun after => LoopKept after ∧ after.AtEase) LoopFault.Unrelated
      (state.runService world crypt event) := by
  have served {result : Except LoopFault LoopState}
      (moved : FallibleRun.Outcome (Rearranged state) LoopFault.Unrelated result) :
      FallibleRun.Outcome (fun after => LoopKept after ∧ after.AtEase) LoopFault.Unrelated
        result := by
    cases result with
    | error fault => exact moved
    | ok after =>
        exact ⟨kept.rearranged moved (ease after moved.point), fun other same =>
          ease other (same.trans moved.point)⟩
  unfold runService
  cases event with
  | connect =>
      dsimp only
      split
      · exact ⟨_, rfl⟩
      · refine @served (.ok _) ?_
        exact .of_kept ⟨rfl, rfl, rfl, rfl, id⟩ rfl rfl rfl
  | close session =>
      refine served (rearranged_serve fun server computed => ?_)
      have tuned :=
        (Server.related_recomputeStations bookkeeping_undisturbed world computed).toSongsKept
      refine .trans ?_ tuned
      exact ⟨rfl, rfl, rfl, rfl, id⟩
  | input session line inRange =>
      exact served (rearranged_serve fun server executed => songsKept_execute inRange executed)
  | stopped =>
      have stopped : (state.goto .stopped).AtEase := atEase_goto (by simp)
      exact ⟨kept_at_ease kept stopped, stopped⟩
  | timeout => exact ⟨kept, ease⟩

private theorem kept_proceed (kept : LoopKept state) (crypt : Text → Text → Text)
    (world : LoopWorld) (playable : LaunchesPlayable state (.proceed world)) :
    FallibleRun.Outcome LoopKept LoopFault.Unrelated (state.proceed crypt world) := by
  have prepared := kept.prepared
  unfold Prepared at prepared
  unfold LaunchesPlayable at playable
  unfold proceed
  cases point : state.point with
  | cleanup =>
      have settings : (state.goto .settings).AtEase := atEase_goto (by simp)
      dsimp only
      split
      · rename_i finished
        exact kept_playbackCleanup (kept_at_ease kept settings) finished settings world.threadRet
      · exact kept_at_ease kept settings
  | settings =>
      dsimp only
      split
      · have started : Rearranged state (state.withApp { state.app with
            pianoparamChangePending := false }) := .of_kept ⟨rfl, rfl, rfl, rfl, id⟩ rfl rfl rfl
        have changed := started.trans (rearranged_changePianoSettings world.initialises)
        have calm : state.Prepared → LoopKept ((state.withApp { state.app with
            pianoparamChangePending := false }).changePianoSettings world.initialises) :=
          fun _ => kept.rearranged changed (by
            unfold Prepared
            rw [changed.point, point]
            trivial)
        exact (calm kept.prepared).goto trivial
      · exact kept.goto trivial
  | login =>
      have ready : (state.goto .ready).AtEase := atEase_goto (by simp)
      dsimp only
      split
      · exact kept_of_outcome (kept_at_ease kept ready)
          (rearranged_serve fun server switched =>
            Server.songsKept_setPandoraUser world.world _ switched) (prepared_of_atEase ready)
      · exact kept_at_ease kept ready
  | ready => exact kept_startUp kept
  | fetch =>
      rw [point] at prepared
      exact kept_fetch kept prepared world
  | launch newList =>
      rw [point] at prepared playable
      exact kept_launch kept prepared.1 prepared.2 playable world.streams newList
  | announce newList =>
      rw [point] at prepared
      exact kept_announce kept prepared world.world newList
  | monitor =>
      have expire : (state.goto .expire).AtEase := atEase_goto (by simp)
      dsimp only
      split
      · rename_i playing
        have song : state.app.currentSong.isSome = true := by
          apply kept.current.mpr
          intro freed
          rw [freed] at playing
          exact absurd playing.1 (by decide)
        exact kept_of_outcome (kept_at_ease kept expire)
          (@rearranged_checkPlayerStatus (state.goto .expire) song world)
          (prepared_of_atEase expire)
      · exact kept_at_ease kept expire
  | expire =>
      have expired := @rearranged_expire state world.world.now
      exact (kept.rearranged expired (by
        unfold Prepared
        rw [expired.point, point]
        trivial)).goto trivial
  | service =>
      have cleanup : (state.goto .cleanup).AtEase := atEase_goto (by simp)
      have served :=
        kept_runService (kept_at_ease kept cleanup) cleanup world.world crypt world.event
      dsimp only
      cases moved : (state.goto .cleanup).runService world.world crypt world.event with
      | error fault =>
          rw [moved] at served
          exact served
      | ok after =>
          rw [moved] at served
          exact kept_of_outcome served.1 (rearranged_checkSignal world.world)
            (prepared_of_atEase served.2)
  | stopped => exact kept

/-- The player thread goes on only while there is a song. -/
theorem kept_advance (kept : LoopKept state) (mode : PlayerMode) :
    LoopKept (state.advance mode) := by
  unfold advance
  split
  · rename_i later
    have active : mode ≠ .freed := by
      intro freed
      rw [freed] at later
      exact absurd later.2 (Nat.not_lt_zero _)
    refine ⟨iff_of_true (kept.current.mpr later.1) active, kept.owned, kept.historyLength, ?_⟩
    have prepared := kept.prepared
    unfold Prepared at prepared ⊢
    dsimp only [withApp]
    split
    · rename_i point
      rw [point] at prepared
      exact absurd prepared later.1
    · rename_i point
      rw [point] at prepared
      exact absurd prepared.1 later.1
    · exact active
    · trivial
  · exact kept

theorem kept_step (kept : LoopKept state) (crypt : Text → Text → Text) (action : LoopAction)
    (playable : LaunchesPlayable state action) :
    FallibleRun.Outcome LoopKept LoopFault.Unrelated (state.step crypt action) := by
  cases action with
  | proceed world => exact kept_proceed kept crypt world playable
  | advance mode => exact kept_advance kept mode
  | signal => exact ⟨kept.current, kept.owned, kept.historyLength, kept.prepared⟩

theorem kept_initial (app : Application) : LoopKept (initial app) where
  current := iff_of_false nofun fun active => active rfl
  owned := .refl _
  historyLength := Nat.zero_lt_succ 4
  prepared := trivial

end LoopState

/-- As long as no song without an audio URL comes up to be played, the loop and the current song
agree in every state that is reached, and the loop never stops for want of a song. -/
theorem songsAgree_of_run {crypt : Text → Text → Text} {app : Application}
    {actions : List LoopAction}
    (playable : FallibleRun.Guarded (LoopState.step crypt) LaunchesPlayable (.initial app)
    actions) : FallibleRun.Outcome SongsAgree LoopFault.Unrelated
      (FallibleRun.run (LoopState.step crypt) (.initial app) actions) := by
  have kept := playable.outcome LoopKept LoopFault.Unrelated
    (fun state action holds admitted => LoopState.kept_step holds crypt action admitted)
    (LoopState.kept_initial app)
  cases arrives : FallibleRun.run (LoopState.step crypt) (.initial app) actions with
  | error fault =>
      rw [arrives] at kept
      exact kept
  | ok state =>
      rw [arrives] at kept
      exact kept.agree

/-! ## A song without an audio URL -/

/-- A world in which the only playlist has one song, with an audio URL or without, and in which
someone asks for playback. -/
def sampleLoopWorld (audioUrl : Option Text) : LoopWorld where
  world := sampleWorld [.getStations]
  threadRet := .ok
  initialises := true
  playlistFailure := none
  retPlaylist := [{
    address := 0
    audioUrl := audioUrl
    audioFormat := .mp3
    trackToken := ascii "t"
    musicId := none
    feedbackId := none
    seedId := none
    artist := ascii "Artist"
    title := ascii "Title"
    album := none
    coverArt := none
    detailUrl := none
    stationId := ascii "r"
    rating := .none }]
  songRemaining := 100
  streams := true
  event := .input 0 (.plain .play) trivial

/-- The loop goes round once and starts over. -/
def sampleRounds (audioUrl : Option Text) : List LoopAction :=
  List.replicate 14 (.proceed (sampleLoopWorld audioUrl))

theorem sampleRounds_agree : ∃ state,
    FallibleRun.run (LoopState.step fun _ salt => salt) (.initial (sampleApplication .standard))
      (sampleRounds (some (ascii "http"))) = .ok state ∧ SongsAgree state ∧
        state.app.currentSong.isSome = true := by
  have playable (state : LoopState) (queue : state.app.playlist.head?.all (·.audioUrl.isSome))
      (world : LoopWorld) : LaunchesPlayable state (.proceed world) := by
    dsimp only [LaunchesPlayable]
    split
    · intro song next
      rw [next] at queue
      exact queue
    · trivial
  have guarded : FallibleRun.Guarded (LoopState.step fun _ salt => salt) LaunchesPlayable
      (.initial (sampleApplication .standard)) (sampleRounds (some (ascii "http"))) := by
    unfold sampleRounds
    iterate 14
      refine FallibleRun.Guarded.cons (playable _ (by rfl) _) (by rfl) ?_
    trivial
  have agree := songsAgree_of_run guarded
  obtain ⟨state, arrives, playing⟩ : ∃ state,
      FallibleRun.run (LoopState.step fun _ salt => salt) (.initial (sampleApplication .standard))
        (sampleRounds (some (ascii "http"))) = .ok state ∧ state.app.currentSong.isSome = true :=
    ⟨_, rfl, rfl⟩
  rw [arrives] at agree
  exact ⟨state, arrives, agree, playing⟩

/-- The loop describes the song that it has not started, and freed. -/
theorem sampleRounds_stops :
    FallibleRun.run (LoopState.step fun _ salt => salt) (.initial (sampleApplication .standard))
      (sampleRounds none) = .error (.song (.assertion "song")) := by
  rfl

end Pianod
