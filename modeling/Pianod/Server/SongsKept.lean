import Pianod.Server.HandlerEffects

/-!
# Commands leave the songs in place

Commands read songs and change their ratings and ids, but which records are in the queue, current,
or in the history is up to the player loop alone.  Most handlers touch neither the controls of the
player nor the connections.
-/

namespace Pianod

open Foundation

/-- The same song records are in the same places, and the player is at the same stage. -/
structure SongsKept (before after : Application) : Prop where
  playlist : after.playlist.map (·.address) = before.playlist.map (·.address)
  currentSong : after.currentSong.map (·.address) = before.currentSong.map (·.address)
  songHistory : after.songHistory.map (·.address) = before.songHistory.map (·.address)
  playerMode : after.playerMode = before.playerMode
  historyLength : 0 < before.settings.historyLength → 0 < after.settings.historyLength

namespace SongsKept

theorem refl (app : Application) : SongsKept app app := ⟨rfl, rfl, rfl, rfl, id⟩

theorem of_eq {before after : Application} (same : after = before) : SongsKept before after := by
  rw [same]
  exact refl before

theorem trans {first second third : Application} (one : SongsKept first second)
    (two : SongsKept second third) : SongsKept first third :=
  ⟨two.playlist.trans one.playlist, two.currentSong.trans one.currentSong,
    two.songHistory.trans one.songHistory, two.playerMode.trans one.playerMode,
    fun positive => two.historyLength (one.historyLength positive)⟩

end SongsKept

namespace Application

/-- What the playback commands and the player thread share. -/
def controls (app : Application) : PlaybackState × Bool × Bool :=
  (app.playbackState, app.doPause, app.doQuit)

/-- What the connections are waiting for, and how they are switched. -/
def receptions (app : Application) : List UserContext.Reception :=
  app.contexts.map (·.reception)

end Application

/-- Neither songs nor the player are touched, and no connection is switched. -/
structure Undisturbed (before after : Application) : Prop extends SongsKept before after where
  controls : after.controls = before.controls
  receptions : after.receptions = before.receptions
  occurrences : after.occurrences = before.occurrences

namespace Undisturbed

theorem refl (app : Application) : Undisturbed app app := ⟨.refl app, rfl, rfl, rfl⟩

theorem of_eq {before after : Application} (same : after = before) : Undisturbed before after := by
  rw [same]
  exact refl before

theorem trans {first second third : Application} (one : Undisturbed first second)
    (two : Undisturbed second third) : Undisturbed first third :=
  ⟨one.toSongsKept.trans two.toSongsKept, two.controls.trans one.controls,
    two.receptions.trans one.receptions, two.occurrences.trans one.occurrences⟩

/-- A change to a context that concerns only the user or the last search. -/
theorem modifyContext (app : Application) (session : Nat) {change : UserContext → UserContext}
    (same : ∀ context, (change context).reception = context.reception) :
    Undisturbed app (app.modifyContext session change) := by
  refine ⟨⟨rfl, rfl, rfl, rfl, id⟩, rfl, ?_, rfl⟩
  apply List.ext_getElem?
  intro other
  unfold Application.receptions Application.modifyContext
  rw [List.getElem?_map, List.getElem?_map, List.getElem?_modify]
  cases app.contexts[other]? with
  | none => split <;> rfl
  | some context =>
      split
      · exact congrArg some (same context)
      · rfl

end Undisturbed

/-- Handlers that only keep records disturb nothing. -/
theorem bookkeeping_undisturbed : Bookkeeping Undisturbed where
  refl := .refl
  trans := .trans
  records rest := by
    rw [rest]
    exact ⟨⟨rfl, rfl, rfl, rfl, id⟩, rfl, rfl, rfl⟩
  songs rest playlist currentSong songHistory := by
    rw [rest]
    exact ⟨⟨playlist, currentSong, songHistory, rfl, id⟩, rfl, rfl, rfl⟩
  context session _ same := .modifyContext _ session same
  settings numbers := by
    refine ⟨⟨rfl, rfl, rfl, rfl, fun positive => ?_⟩, rfl, rfl, rfl⟩
    have historyLength := congrArg (fun entry => entry.2.1) numbers
    exact positive.trans_eq historyLength.symm
  users _ := ⟨⟨rfl, rfl, rfl, rfl, id⟩, rfl, rfl, rfl⟩

namespace Server

variable (world : World) (session : Nat) (server : Server)

/-! ## Playback and settings -/

theorem songsKept_controlPlayback (command : PlaybackCommand) :
    SongsKept server.app (server.controlPlayback world session command).app := by
  have settle (told : Server) : SongsKept told.app (if told.app.playbackState = .paused then
      told.withApp { told.app with
        stalled := false
        stallSample := 0
        stallSampleTime := 0 } else told).app := by
    split
    · exact ⟨rfl, rfl, rfl, rfl, id⟩
    · exact .refl _
  unfold controlPlayback
  dsimp only
  split
  · split
    · refine .trans ?_ (settle _)
      rw [reply_app, sendPlaybackStatus_app]
      exact ⟨rfl, rfl, rfl, rfl, id⟩
    · exact .trans (by exact ⟨rfl, rfl, rfl, rfl, id⟩) (settle _)
  · split
    · exact settle (server.reply session .eWrongState)
    · exact .trans (by exact ⟨rfl, rfl, rfl, rfl, id⟩) (settle _)

theorem songsKept_cancelPlayback : SongsKept server.app (server.cancelPlayback world).app :=
  ⟨rfl, rfl, rfl, rfl, id⟩

@[simp]
theorem changePlayback_app (command : PlaybackCommand) :
    (server.changePlayback world session command).app =
      (server.controlPlayback world session command).app := by
  unfold changePlayback
  dsimp only
  split
  · rfl
  · exact announceAction_app _

/-! ## Credentials -/

theorem songsKept_eventOccurred (event : WaitEvent) (response : ResponseCode) :
    SongsKept server.app (server.eventOccurred event response).app := ⟨rfl, rfl, rfl, rfl, id⟩

theorem songsKept_setPandoraUser {server after : Server}
    (switched : server.setPandoraUser world session = .ok after) :
    SongsKept server.app after.app := by
  obtain kept | ⟨middle, response, kept, rfl⟩ :=
    setPandoraUser_tells bookkeeping_undisturbed world session switched
  · exact kept.toSongsKept
  · exact kept.toSongsKept.trans (middle.songsKept_eventOccurred .authenticated response)

end Server

end Pianod
