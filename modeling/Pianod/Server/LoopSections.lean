import Pianod.Server.PlayerLoop
import Pianod.Server.CommandEffects

/-!
# The sections of the player loop

Most functions that the loop calls only move songs about.
-/

namespace Pianod

open Foundation

/-- Songs may have come and gone, but the player, its flags and the connections are as they were. -/
structure ControlsKept (before after : LoopState) : Prop where
  playerMode : after.app.playerMode = before.app.playerMode
  controls : after.app.controls = before.app.controls
  receptions : after.app.receptions = before.app.receptions
  point : after.point = before.point
  occurrences : after.app.occurrences = before.app.occurrences

namespace ControlsKept

theorem refl (state : LoopState) : ControlsKept state state := ⟨rfl, rfl, rfl, rfl, rfl⟩

theorem trans {first second third : LoopState} (one : ControlsKept first second)
    (two : ControlsKept second third) : ControlsKept first third :=
  ⟨two.playerMode.trans one.playerMode, two.controls.trans one.controls,
    two.receptions.trans one.receptions, two.point.trans one.point,
    two.occurrences.trans one.occurrences⟩

end ControlsKept

namespace LoopState

variable {state after : LoopState}

theorem serve_ok {handler : Server → Except Fault Server}
    (served : state.serve handler = .ok after) :
    ∃ server, handler ⟨state.app, []⟩ = .ok server ∧ after = state.withApp server.app := by
  unfold serve at served
  split at served
  · cases served
  · rename_i server handled
    exact ⟨server, handled, (Except.ok.inj served).symm⟩

theorem controlsKept_serve {handler : Server → Except Fault Server}
    (keeps : ∀ server, handler ⟨state.app, []⟩ = .ok server → Undisturbed state.app server.app)
    (served : state.serve handler = .ok after) : ControlsKept state after := by
  obtain ⟨server, handled, rfl⟩ := serve_ok served
  exact ⟨(keeps server handled).playerMode, (keeps server handled).controls,
    (keeps server handled).receptions, rfl, (keeps server handled).occurrences⟩

theorem controlsKept_updateStationList {world : World}
    (updated : state.serve (Server.updateStationList world) = .ok after) :
    ControlsKept state after :=
  controlsKept_serve (fun _ handled => Server.related_updateStationList bookkeeping_undisturbed
    world handled) updated

theorem controlsKept_applyStationInfo {world : World}
    (applied : (state.serve fun server => .ok (server.applyStationInfo world)) = .ok after) :
    ControlsKept state after := by
  refine controlsKept_serve (fun server handled => ?_) applied
  cases handled
  exact Server.related_applyStationInfo bookkeeping_undisturbed world ⟨state.app, []⟩

theorem controlsKept_getPlayList {world : LoopWorld}
    (fetched : state.getPlayList world = .ok after) : ControlsKept state after := by
  unfold getPlayList at fetched
  split at fetched
  · cases fetched
  · split at fetched
    · cases fetched
    · split at fetched <;> cases fetched <;> exact ⟨rfl, rfl, rfl, rfl, rfl⟩

theorem controlsKept_purgeUnselectedSongs (purged : state.purgeUnselectedSongs = .ok after) :
    ControlsKept state after := by
  unfold purgeUnselectedSongs at purged
  split at purged
  · cases purged
  · cases purged
    exact ⟨rfl, rfl, rfl, rfl, rfl⟩

private theorem controlsKept_prefetch {world : LoopWorld}
    (fetched : state.prefetch world = .ok after) : ControlsKept state after := by
  unfold prefetch at fetched
  split at fetched
  · cases fetched
  · rename_i updated
    refine (controlsKept_updateStationList updated).trans ?_
    split at fetched
    · split at fetched
      · cases fetched
      · rename_i listed
        exact (controlsKept_getPlayList listed).trans (controlsKept_applyStationInfo fetched)
    · cases fetched
      exact .refl _

private theorem controlsKept_checkStall (now : Nat) (songRemaining : Int) :
    ControlsKept state (state.checkStall now songRemaining) := by
  unfold checkStall
  split <;> exact ⟨rfl, rfl, rfl, rfl, rfl⟩

theorem controlsKept_expire (now : Nat) : ControlsKept state (state.expire now) := by
  unfold expire
  split <;> exact ⟨rfl, rfl, rfl, rfl, rfl⟩

theorem controlsKept_changePianoSettings (initialises : Bool) :
    ControlsKept state (state.changePianoSettings initialises) := by
  cases initialises <;> exact ⟨rfl, rfl, rfl, rfl, rfl⟩

/-- Watching a playing thread touches only the songs. -/
theorem controlsKept_watch {world : LoopWorld} (playing : state.app.playbackState = .playing)
    (announced : state.broadcastStatus = false)
    (checked : state.checkPlayerStatus world = .ok after) : ControlsKept state after := by
  unfold checkPlayerStatus at checked
  rw [announced, if_neg Bool.false_ne_true, playing] at checked
  dsimp only at checked
  split at checked
  · cases checked
  · rename_i middle purging
    have purged : ControlsKept state middle := by
      split at purging
      · exact controlsKept_purgeUnselectedSongs purging
      · cases purging
        exact .refl state
    refine purged.trans ?_
    split at checked
    · cases checked
    · rename_i last fetching
      cases checked
      refine ControlsKept.trans ?_ (controlsKept_checkStall world.world.now world.songRemaining)
      split at fetching
      · exact controlsKept_prefetch fetching
      · cases fetching
        exact .refl middle

end LoopState

end Pianod
