import Pianod.Server.HandlerEffects
import Pianod.Server.PolledLoop

/-!
# What endures in the loop

A property of the user records and of the settings that are numbers is out of reach of everything
the loop does but for revisions of the user records and for the commands that set a number.  If the
property bears these, it holds in every state that the loop reaches.
-/

namespace Pianod

open Foundation

/-- A property of the user records and the numeric settings that bears every revision of the
records, and every admitted command that sets a number. -/
structure Enduring (admits : Command → Prop) (holds : Application → Prop) : Prop where
  frame {before after : Application} (held : holds before) (users : after.users = before.users)
    (numbers : after.settings.numbers = before.settings.numbers) : holds after
  users {app : Application} {users : UserDatabase} (revised : UsersRevised app.users users) :
    holds app → holds { app with users := users }
  adjusts {app : Application} {command : Command} {settings : Settings} (admitted : admits command)
    (given : command.Adjusts app.settings settings) :
    holds app → holds { app with settings := settings }

/-- Every command in a line is admitted. -/
def CommandLine.All (admits : Command → Prop) : CommandLine → Prop
  | .plain command => admits command
  | .asUser _ _ _ line => line.All admits

/-- Every command in the input of an event is admitted. -/
def ServiceEvent.All (admits : Command → Prop) : ServiceEvent → Prop
  | .input _ line _ => line.All admits
  | _ => True

def PollAction.All (admits : Command → Prop) : PollAction → Prop
  | .read _ _ _ (.line line _) => line.All admits
  | _ => True

/-- A section that calls a function of the server. -/
theorem holds_serve {holds : Application → Prop} {state after : LoopState}
    {handler : Server → Except Fault Server}
    (keeps : ∀ server, handler ⟨state.app, []⟩ = .ok server → holds state.app → holds server.app)
    (served : state.serve handler = .ok after) (held : holds state.app) : holds after.app := by
  obtain ⟨server, handled, rfl⟩ := LoopState.serve_ok served
  exact keeps server handled held

namespace Enduring

variable {admits : Command → Prop} {holds : Application → Prop} (enduring : Enduring admits holds)

include enduring

theorem bookkeeping : Bookkeeping fun before after => holds before → holds after where
  refl _ := id
  trans one two held := two (one held)
  records rest held := by
    rw [rest]
    exact enduring.frame held rfl rfl
  songs rest _ _ _ held := by
    rw [rest]
    exact enduring.frame held rfl rfl
  context _ _ _ held := enduring.frame held rfl rfl
  settings numbers held := enduring.frame held rfl numbers
  users := enduring.users

/-! ## Commands -/

theorem controlPlayback (world : World) (session : Nat) (server : Server)
    (command : PlaybackCommand) (held : holds server.app) :
    holds (server.controlPlayback world session command).app := by
  have settle (told : Server) (held : holds told.app) :
      holds (if told.app.playbackState = .paused then
        told.withApp { told.app with
          stalled := false
          stallSample := 0
          stallSampleTime := 0 } else told).app := by
    split
    · exact enduring.frame held rfl rfl
    · exact held
  unfold Server.controlPlayback
  dsimp only
  split
  · split
    · apply settle
      rw [Server.reply_app, Server.sendPlaybackStatus_app]
      exact enduring.frame held rfl rfl
    · apply settle
      exact enduring.frame held rfl rfl
  · split
    · exact settle (server.reply session .eWrongState) held
    · apply settle
      exact enduring.frame held rfl rfl

theorem effect {world : World} {session : Nat} {command : Command} {before after : Server}
    (admitted : admits command)
    (effect : HandlerEffect (fun before after => holds before → holds after) world session command
      before after) (held : holds before.app) : holds after.app := by
  have kept := enduring.bookkeeping
  cases effect with
  | bookkeeping kept => exact kept held
  | waits event called waited =>
      obtain ⟨-, -, rfl⟩ := Server.waitForEvent_eq_ok waited
      exact enduring.frame held rfl rfl
  | quits same | logsOff user same =>
      rw [same]
      exact enduring.frame held rfl rfl
  | logsIn middle response kept told =>
      rw [told]
      exact enduring.frame (kept held) rfl rfl
  | skips skipped =>
      obtain ⟨told, told_kept, same | ⟨same, -⟩⟩ :=
        Server.nextSong_cancels kept world session skipped
      · rw [same]
        exact enduring.frame (told_kept held) rfl rfl
      · rw [same]
        exact told_kept held
  | selects station automatic plays selected =>
      obtain ⟨told, told_kept, same | rfl⟩ :=
        Server.selectStation_controls kept world session selected
      · rw [same]
        exact told_kept held
      · exact enduring.controlPlayback world session told .play (told_kept held)
  | stops now stopped =>
      obtain ⟨told, told_kept, same⟩ := Server.stopPlayback_cancels kept world session stopped
      rw [same]
      split
      · exact enduring.frame (told_kept held) rfl rfl
      · exact told_kept held
  | controls command changed =>
      rw [changed, Server.changePlayback_app]
      exact enduring.controlPlayback world session before command held
  | adjusts settings given kept => exact kept (enduring.adjusts admitted given held)

/-- A command line, however many users it is executed on behalf of; the induction follows the
nesting of `AS USER`. -/
theorem execute {world : World} {crypt : Text → Text → Text} {session : Nat} {line : CommandLine}
    {server after : Server} (admitted : line.All admits)
    (executed : server.execute world crypt session line = .ok after) (held : holds server.app) :
    holds after.app := by
  induction line generalizing server after with
  | plain command =>
      exact enduring.effect admitted
        (handlerEffect_executePlain enduring.bookkeeping executed) held
  | asUser name password quits line ih =>
      unfold Server.execute at executed
      dsimp only at executed
      split at executed
      · cases executed
      · cases executed
        exact enduring.frame held rfl rfl
      · split at executed
        · cases executed
        · rename_i left executing
          cases executed
          have done : holds left.app := by
            split at executing
            · cases executing
              exact enduring.frame held rfl rfl
            · exact ih admitted executing (enduring.frame held rfl rfl)
          exact enduring.frame done rfl rfl

/-! ## Sections of the loop -/

open LoopState

theorem getPlayList {state after : LoopState} {world : LoopWorld}
    (fetched : state.getPlayList world = .ok after) (held : holds state.app) :
    holds after.app := by
  unfold LoopState.getPlayList at fetched
  split at fetched
  · cases fetched
  · split at fetched
    · cases fetched
    · split at fetched <;> cases fetched <;> exact enduring.frame held rfl rfl

theorem purgeUnselectedSongs {state after : LoopState}
    (purged : state.purgeUnselectedSongs = .ok after) (held : holds state.app) :
    holds after.app := by
  unfold LoopState.purgeUnselectedSongs at purged
  split at purged
  · cases purged
  · cases purged
    exact enduring.frame held rfl rfl

theorem updateStationList {state after : LoopState} {world : World}
    (updated : state.serve (Server.updateStationList world) = .ok after) (held : holds state.app) :
    holds after.app :=
  holds_serve (fun _ handled =>
    Server.related_updateStationList enduring.bookkeeping world handled) updated held

theorem applyStationInfo {state after : LoopState} {world : World}
    (applied : (state.serve fun server => .ok (server.applyStationInfo world)) = .ok after)
    (held : holds state.app) : holds after.app := by
  refine holds_serve (fun server handled => ?_) applied held
  cases handled
  exact Server.related_applyStationInfo enduring.bookkeeping world ⟨state.app, []⟩

theorem prefetch {state after : LoopState} {world : LoopWorld}
    (fetched : state.prefetch world = .ok after) (held : holds state.app) : holds after.app := by
  unfold LoopState.prefetch at fetched
  split at fetched
  · cases fetched
  · rename_i updated
    have listed := enduring.updateStationList updated held
    split at fetched
    · split at fetched
      · cases fetched
      · rename_i playlist
        exact enduring.applyStationInfo fetched (enduring.getPlayList playlist listed)
    · cases fetched
      exact listed

theorem playbackCleanup {state after : LoopState} {ret : PlayerReturn}
    (cleaned : state.playbackCleanup ret = .ok after) (held : holds state.app) :
    holds after.app := by
  unfold LoopState.playbackCleanup at cleaned
  split at cleaned
  · cases cleaned
  · obtain ⟨server, handled, rfl⟩ := serve_ok cleaned
    cases handled
    refine enduring.frame held ?_ ?_
    all_goals
      unfold prependHistory
      dsimp only
      split <;> rfl

theorem checkPlayerStatus {state after : LoopState} {world : LoopWorld}
    (checked : state.checkPlayerStatus world = .ok after) (held : holds state.app) :
    holds after.app := by
  unfold LoopState.checkPlayerStatus at checked
  split at checked
  · split at checked
    · cases checked
    · obtain ⟨server, handled, rfl⟩ := serve_ok checked
      cases handled
      exact enduring.frame held rfl rfl
  · split at checked
    · dsimp only at checked
      split at checked
      · cases checked
      · rename_i middle purging
        have purged : holds middle.app := by
          split at purging
          · exact enduring.purgeUnselectedSongs purging held
          · cases purging
            exact held
        split at checked
        · cases checked
        · rename_i last fetching
          cases checked
          have fetched : holds last.app := by
            split at fetching
            · exact enduring.prefetch fetching purged
            · cases fetching
              exact purged
          unfold checkStall
          split <;> exact enduring.frame fetched rfl rfl
    · split at checked
      · obtain ⟨server, handled, rfl⟩ := serve_ok checked
        cases handled
        exact enduring.frame held rfl rfl
      · cases checked
        exact held

theorem startUp {state after : LoopState} (started : state.startUp = .ok after)
    (held : holds state.app) : holds after.app := by
  unfold LoopState.startUp at started
  dsimp only at started
  split at started
  · cases started
    exact held
  · split at started
    · cases started
      exact held
    · split at started
      · cases started
        exact enduring.frame held rfl rfl
      · split at started
        · cases started
          exact held
        · split at started
          · split at started
            · cases started
            · rename_i purged
              cases started
              have kept := enduring.purgeUnselectedSongs purged held
              exact kept
          · cases started
            exact held

theorem fetch {state after : LoopState} {world : LoopWorld}
    (fetched : state.fetch world = .ok after) (held : holds state.app) : holds after.app := by
  unfold LoopState.fetch at fetched
  dsimp only at fetched
  split at fetched
  · cases fetched
  · rename_i fetching
    cases fetched
    split at fetching
    · split at fetching
      · cases fetching
      · rename_i updated
        have listed := enduring.updateStationList updated held
        split at fetching
        · have kept := enduring.getPlayList fetching listed
          exact kept
        · cases fetching
          exact listed
    · cases fetching
      exact held

theorem launch {state after : LoopState} {streams newList : Bool}
    (launched : state.launch streams newList = .ok after) (held : holds state.app) :
    holds after.app := by
  unfold LoopState.launch playbackStart at launched
  dsimp only [withApp] at launched
  split at launched
  · cases launched
  · rename_i starting
    cases launched
    split at starting
    · cases starting
    · split at starting
      · cases starting
      · split at starting <;> cases starting <;> exact enduring.frame held rfl rfl

theorem runService {state after : LoopState} {world : World} {crypt : Text → Text → Text}
    {event : ServiceEvent} (admitted : event.All admits)
    (served : state.runService world crypt event = .ok after) (held : holds state.app) :
    holds after.app := by
  unfold LoopState.runService at served
  cases event with
  | connect =>
      dsimp only at served
      split at served
      · cases served
      · cases served
        exact enduring.frame held rfl rfl
  | close session =>
      refine holds_serve (fun server handled held => ?_) served held
      refine Server.related_recomputeStations enduring.bookkeeping world handled ?_
      exact enduring.frame held rfl rfl
  | input session line inRange =>
      exact holds_serve (fun server handled => enduring.execute admitted handled) served held
  | stopped | timeout =>
      cases served
      exact held

/-- One case for each section. -/
theorem proceed {state after : LoopState} {world : LoopWorld} {crypt : Text → Text → Text}
    (admitted : state.point = .service → world.event.All admits)
    (proceeded : state.proceed crypt world = .ok after) (held : holds state.app) :
    holds after.app := by
  unfold LoopState.proceed at proceeded
  cases point : state.point with
  | cleanup =>
      rw [point] at proceeded
      dsimp only at proceeded
      split at proceeded
      · exact enduring.playbackCleanup proceeded held
      · cases proceeded
        exact held
  | settings =>
      rw [point] at proceeded
      dsimp only at proceeded
      split at proceeded
      · cases proceeded
        refine enduring.frame held ?_ ?_
        all_goals
          unfold LoopState.changePianoSettings ServerState.changePianoSettings
          dsimp only
          split <;> split <;> rfl
      · cases proceeded
        exact held
  | login =>
      rw [point] at proceeded
      dsimp only at proceeded
      split at proceeded
      · refine holds_serve (fun server switched held => ?_) proceeded held
        obtain kept | ⟨middle, response, kept, rfl⟩ :=
          Server.setPandoraUser_tells enduring.bookkeeping world.world _ switched
        · exact kept held
        · exact enduring.frame (kept held) rfl rfl
      · cases proceeded
        exact held
  | ready =>
      rw [point] at proceeded
      exact enduring.startUp proceeded held
  | fetch =>
      rw [point] at proceeded
      exact enduring.fetch proceeded held
  | launch newList =>
      rw [point] at proceeded
      exact enduring.launch proceeded held
  | announce newList =>
      rw [point] at proceeded
      dsimp only [announce] at proceeded
      split at proceeded
      · cases proceeded
      · split at proceeded
        · exact enduring.applyStationInfo proceeded held
        · cases proceeded
          exact held
  | monitor =>
      rw [point] at proceeded
      dsimp only at proceeded
      split at proceeded
      · exact enduring.checkPlayerStatus proceeded held
      · cases proceeded
        exact held
  | expire =>
      rw [point] at proceeded
      cases proceeded
      refine enduring.frame held ?_ ?_
      all_goals
        unfold LoopState.expire
        split <;> rfl
  | service =>
      rw [point] at proceeded
      dsimp only at proceeded
      split at proceeded
      · cases proceeded
      · rename_i middle served
        have told : holds middle.app :=
          enduring.runService (admitted point) served held
        unfold checkSignal at proceeded
        split at proceeded
        · obtain ⟨server, handled, rfl⟩ := serve_ok proceeded
          cases handled
          exact enduring.frame told rfl rfl
        · cases proceeded
          exact told
  | stopped =>
      rw [point] at proceeded
      cases proceeded
      exact held

/-! ## Runs -/

open PolledLoop

private theorem loopStep {state after : LoopState} {action : LoopAction}
    {crypt : Text → Text → Text} (quiet : ¬(state.point = .service ∧ action.isInput = true))
    (stepped : state.step crypt action = .ok after) (held : holds state.app) :
    holds after.app := by
  cases action with
  | proceed world =>
      refine enduring.proceed (fun service => ?_) stepped held
      cases event : world.event with
      | input session line inRange =>
          exact absurd ⟨service, by simp [LoopAction.isInput, event]⟩ quiet
      | connect | close | stopped | timeout => trivial
  | advance mode =>
      cases stepped
      unfold LoopState.advance
      split
      · exact enduring.frame held rfl rfl
      · exact held
  | signal =>
      cases stepped
      exact held

theorem step {polled after : PolledLoop} {action : PollAction} {crypt : Text → Text → Text}
    (admitted : action.All admits) (stepped : polled.step crypt action = .ok after)
    (held : holds polled.loop.app) : holds after.loop.app := by
  unfold PolledLoop.step at stepped
  cases action with
  | loop action =>
      dsimp only at stepped
      split at stepped
      · cases stepped
        exact held
      · rename_i quiet
        obtain ⟨loop, moved, rfl⟩ := FallibleRun.map_ok_iff.mp stepped
        exact enduring.loopStep quiet moved held
  | select ready =>
      dsimp only at stepped
      split at stepped <;> cases stepped <;> exact held
  | read world session pending outcome =>
      dsimp only at stepped
      split at stepped
      · unfold PolledLoop.read at stepped
        dsimp only at stepped
        split at stepped
        · cases stepped
        · have buffered : holds (polled.buffered session pending).app :=
            enduring.frame held rfl rfl
          cases outcome with
          | incomplete =>
              cases stepped
              exact buffered
          | line line inRange =>
              obtain ⟨loop, moved, rfl⟩ := FallibleRun.map_ok_iff.mp stepped
              refine enduring.proceed (fun _ => ?_) moved buffered
              exact admitted
          | endOfInput =>
              cases stepped
              exact enduring.frame held rfl rfl
      · cases stepped
        exact held
  | writeFails session =>
      dsimp only at stepped
      split at stepped <;> cases stepped
      · exact enduring.frame held rfl rfl
      · exact held

/-- What endures holds in every state that is reached. -/
theorem run {polled after : PolledLoop} {actions : List PollAction} {crypt : Text → Text → Text}
    (admitted : ∀ action ∈ actions, action.All admits)
    (arrives : FallibleRun.run (PolledLoop.step crypt) polled actions = .ok after)
    (held : holds polled.loop.app) : holds after.loop.app := by
  induction actions generalizing polled with
  | nil =>
      cases arrives
      exact held
  | cons action actions ih =>
      obtain ⟨next, stepped, rest⟩ := FallibleRun.run_cons_ok_iff.mp arrives
      exact ih (fun other member => admitted other (List.mem_cons_of_mem _ member)) rest
        (enduring.step (admitted action List.mem_cons_self) stepped held)

/-- What endures holds initially if it holds of the users and of the settings, except that the
loop starts with a history of five songs. -/
theorem initial {app : Application} {startscript : Bool}
    (held : holds { app with settings := { app.settings with historyLength := 5 } }) :
    holds (PolledLoop.initial app startscript).loop.app :=
  enduring.frame held rfl rfl

end Enduring

end Pianod
