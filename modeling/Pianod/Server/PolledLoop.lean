import Pianod.Server.LoopSections
import Pianod.Server.LoopSongs
import Pianod.Server.Waiting

/-!
# Reading from connections

Which connections are read from is decided by Football: it marks those that are ready, and takes
the marks down one by one.  A connection that waits for an event is not read from until the event,
and is made to wait only if it can, unless on behalf of a user.
-/

namespace Pianod

open Foundation
open UserContext (Reception)

/-! ## Polling -/

/-- The loop, and the connections that the last call of `select` found ready for reading. -/
structure PolledLoop where
  loop : LoopState
  lastReading : List Nat

/-- What reading from a connection yields. -/
inductive ReadOutcome where
  | incomplete
  | line (line : CommandLine) (inRange : line.InRange)
  | endOfInput

/-- What can happen to the loop and its connections. -/
inductive PollAction where
  /-- A section of the loop that handles no input, progress of the player thread, or a signal. -/
  | loop (action : LoopAction)
  /-- Some connections are ready. -/
  | select (ready : List Nat)
  /-- A connection's turn to be read from. -/
  | read (world : LoopWorld) (session : Nat) (pending : Bool) (outcome : ReadOutcome)
  /-- Writing to a connection fails; its turn comes after those to be read from. -/
  | writeFails (session : Nat)

namespace LoopState

def modifyContext (state : LoopState) (session : Nat) (change : UserContext → UserContext) :
    LoopState :=
  state.withApp (state.app.modifyContext session change)

end LoopState

/-- Whether a section of the loop handles input. -/
def LoopAction.isInput : LoopAction → Bool
  | .proceed world =>
      match world.event with
      | .input .. => true
      | _ => false
  | _ => false

namespace PolledLoop

def withLoop (polled : PolledLoop) (loop : LoopState) : PolledLoop := { polled with loop := loop }

/-- TLS may have decrypted more than was read from a connection. -/
def buffered (polled : PolledLoop) (session : Nat) (pending : Bool) : LoopState :=
  polled.loop.modifyContext session fun context =>
    { context with
      recordPending := pending
      buffering := context.readable && pending }

/-- Read from a connection, and execute the command if a line is complete. -/
def read (crypt : Text → Text → Text) (polled : PolledLoop) (world : LoopWorld) (session : Nat)
    (pending : Bool) (outcome : ReadOutcome) : Except LoopFault PolledLoop :=
  let taken := { polled with lastReading := polled.lastReading.erase session }
  if !(polled.loop.app.context session).isOpen then .error (.other (.assertion "0"))
  else
    match outcome with
    | .incomplete => .ok (taken.withLoop (polled.buffered session pending))
    | .line line inRange =>
        ((polled.buffered session pending).proceed crypt
          { world with event := .input session line inRange }).map taken.withLoop
    | .endOfInput => .ok (taken.withLoop (polled.loop.modifyContext session (·.closeConnection)))

def step (crypt : Text → Text → Text) (polled : PolledLoop) :
    PollAction → Except LoopFault PolledLoop
  | .loop action =>
      if polled.loop.point = .service ∧ action.isInput = true then .ok polled
      else (polled.loop.step crypt action).map polled.withLoop
  | .select ready =>
      if polled.loop.point = .service ∧ polled.lastReading = [] then
        .ok { polled with
          lastReading := (List.range polled.loop.app.contexts.length).filter fun session =>
            ready.contains session && ((polled.loop.app.context session).readable ||
              (polled.loop.app.context session).buffering) }
      else .ok polled
  | .read world session pending outcome =>
      if polled.loop.point = .service ∧ session ∈ polled.lastReading then
        polled.read crypt world session pending outcome
      else .ok polled
  | .writeFails session =>
      if polled.loop.point = .service ∧ polled.lastReading = [] then
        .ok (polled.withLoop (polled.loop.modifyContext session (·.closeConnection)))
      else .ok polled

/-- The server starts without connections, or with that of the startscript. -/
def initial (app : Application) (startscript : Bool) : PolledLoop where
  loop := .initial { app with
    contexts := if startscript then [.connected (some .startscript)] else [] }
  lastReading := []

end PolledLoop

/-! ## The sections of the loop -/

/-- How a connection is switched in a section of the loop, where connections come and go. -/
inductive Changed (giver : Option Nat) (session : Nat) (before : Reception) :
    List Occurrence → Reception → Prop where
  | switched {occurrences : List Occurrence} {after : Reception}
      (switched : Switched giver session before occurrences after) :
      Changed giver session before occurrences after
  | arrives (fresh : before = UserContext.gone.reception) :
      Changed giver session before [] (UserContext.connected none).reception
  | leaves : Changed giver session before [] UserContext.gone.reception

/-- The events that occur in a section of the loop switch the connections. -/
def Changes (giver : Option Nat) (before after : Application) : Prop :=
  ∃ occurrences, after.occurrences = before.occurrences ++ occurrences ∧
    ∀ session, Changed giver session (before.context session).reception occurrences
      (after.context session).reception

section Changes

variable {giver : Option Nat} {first second third : Application}

theorem Changes.of_switches (switches : Switches giver first second) :
    Changes giver first second := by
  obtain ⟨occurrences, grown, switched⟩ := switches
  exact ⟨occurrences, grown, fun session => .switched (switched session)⟩

theorem Changes.of_same (receptions : second.receptions = first.receptions)
    (occurrences : second.occurrences = first.occurrences) : Changes giver first second :=
  .of_switches (.of_same receptions occurrences)

theorem Changes.refl : Changes giver first first := .of_same rfl rfl

private theorem Changes.followed (changes : Changes giver first second)
    (receptions : third.receptions = second.receptions)
    (occurrences : third.occurrences = second.occurrences) : Changes giver first third := by
  obtain ⟨happened, grown, changed⟩ := changes
  refine ⟨happened, occurrences.trans grown, fun session => ?_⟩
  rw [Application.reception_of_receptions receptions session]
  exact changed session

end Changes

namespace LoopState

variable {state after : LoopState} {giver : Option Nat}

private theorem changes_playbackCleanup {ret : PlayerReturn}
    (cleaned : state.playbackCleanup ret = .ok after) : Changes giver state.app after.app := by
  unfold playbackCleanup at cleaned
  split at cleaned
  · cases cleaned
  · obtain ⟨server, handled, rfl⟩ := serve_ok cleaned
    cases handled
    refine .of_switches (.of_event ?_ ?_ .trackEnded .sOk) <;>
    · unfold prependHistory
      dsimp only
      split <;> rfl

private theorem changes_startUp (started : state.startUp = .ok after) :
    Changes giver state.app after.app := by
  unfold startUp at started
  dsimp only at started
  split at started
  · cases started
    exact .refl
  · split at started
    · cases started
      exact .refl
    · split at started
      · cases started
        exact .of_same rfl rfl
      · split at started
        · cases started
          exact .refl
        · split at started
          · split at started
            · cases started
            · rename_i purged
              cases started
              have kept := controlsKept_purgeUnselectedSongs purged
              exact .of_same kept.receptions kept.occurrences
          · cases started
            exact .refl

private theorem changes_fetch {world : LoopWorld} (fetched : state.fetch world = .ok after) :
    Changes giver state.app after.app := by
  unfold fetch at fetched
  dsimp only at fetched
  split at fetched
  · cases fetched
  · rename_i fetching
    cases fetched
    split at fetching
    · split at fetching
      · cases fetching
      · rename_i updated
        have refreshed := controlsKept_updateStationList updated
        split at fetching
        · have kept := refreshed.trans (controlsKept_getPlayList fetching)
          exact .of_same kept.receptions kept.occurrences
        · cases fetching
          exact .of_same refreshed.receptions refreshed.occurrences
    · cases fetching
      exact .refl

private theorem changes_launch {streams newList : Bool}
    (launched : state.launch streams newList = .ok after) :
    Changes giver state.app after.app := by
  unfold launch playbackStart at launched
  dsimp only [withApp] at launched
  split at launched
  · cases launched
  · rename_i starting
    cases launched
    split at starting
    · cases starting
    · split at starting
      · cases starting
      · split at starting <;> cases starting <;> exact .of_same rfl rfl

private theorem changes_checkPlayerStatus {world : LoopWorld}
    (checked : state.checkPlayerStatus world = .ok after) :
    Changes giver state.app after.app := by
  cases announcing : state.broadcastStatus with
  | true =>
      unfold checkPlayerStatus at checked
      rw [if_pos announcing] at checked
      split at checked
      · cases checked
      · obtain ⟨server, handled, rfl⟩ := serve_ok checked
        cases handled
        exact .of_switches (@Switches.of_event giver state.app ⟨state.app, []⟩ rfl rfl
          .trackStarted .sOk)
  | false =>
      cases wanted : state.app.playbackState with
      | playing =>
          have kept := controlsKept_watch wanted announcing checked
          exact .of_same kept.receptions kept.occurrences
      | paused =>
          unfold checkPlayerStatus at checked
          rw [announcing, if_neg Bool.false_ne_true, wanted] at checked
          dsimp only at checked
          split at checked
          · obtain ⟨server, handled, rfl⟩ := serve_ok checked
            cases handled
            exact .of_same rfl rfl
          · cases checked
            exact .refl

private theorem checkSignal_same {world : World} (checked : state.checkSignal world = .ok after) :
    after.app.receptions = state.app.receptions ∧
      after.app.occurrences = state.app.occurrences := by
  unfold checkSignal at checked
  split at checked
  · obtain ⟨server, handled, rfl⟩ := serve_ok checked
    cases handled
    exact ⟨rfl, rfl⟩
  · cases checked
    exact ⟨rfl, rfl⟩

/-- A new connection takes the next number. -/
theorem changes_connect : Changes giver state.app (state.withApp { state.app with
    contexts := state.app.contexts ++ [.connected none] }).app := by
  refine ⟨[], (List.append_nil _).symm, fun session => ?_⟩
  unfold withApp Application.context
  dsimp only
  rcases Nat.lt_trichotomy session state.app.contexts.length with before | same | after
  · rw [List.getElem?_append_left before]
    exact .switched .same
  · have fresh : ((state.app.contexts ++ [UserContext.connected none])[session]?.getD .gone) =
        UserContext.connected none := by simp [same]
    rw [fresh]
    exact .arrives (by rw [List.getElem?_eq_none same.ge]; rfl)
  · have missing : (state.app.contexts ++ [UserContext.connected none])[session]? = none :=
      List.getElem?_eq_none (by simp; omega)
    rw [missing]
    exact .leaves

private theorem changes_runService {world : World} {crypt : Text → Text → Text}
    {event : ServiceEvent} (own : ∀ session line inRange, event = .input session line inRange →
      giver = some session ∧ (state.app.context session).waitingFor = none)
    (served : state.runService world crypt event = .ok after) :
    Changes giver state.app after.app := by
  unfold runService at served
  cases event with
  | connect =>
      dsimp only at served
      split at served
      · cases served
      · cases served
        exact changes_connect
  | close other =>
      obtain ⟨server, handled, rfl⟩ := serve_ok served
      have tuned := Server.related_recomputeStations bookkeeping_undisturbed world handled
      refine ⟨[], tuned.occurrences.trans (List.append_nil _).symm, fun session => ?_⟩
      have there := Application.reception_of_receptions tuned.receptions session
      dsimp only [withApp]
      rw [there, Server.withApp_app, Application.reception_modifyContext]
      split
      · exact .leaves
      · exact .switched .same
  | input other line inRange =>
      obtain ⟨server, handled, rfl⟩ := serve_ok served
      obtain ⟨gives, idle⟩ := own other line inRange rfl
      have ready : (state.app.context other).reception.waitingFor = none := idle
      rw [gives]
      exact .of_switches (switches_execute inRange (fun _ => rfl) ready handled)
  | stopped =>
      cases served
      exact .refl
  | timeout =>
      cases served
      exact .refl

/-- One case for each section of the loop. -/
theorem changes_proceed {crypt : Text → Text → Text} {world : LoopWorld}
    (own : state.point = .service → ∀ session line inRange,
      world.event = .input session line inRange →
        giver = some session ∧ (state.app.context session).waitingFor = none)
    (proceeded : state.proceed crypt world = .ok after) : Changes giver state.app after.app := by
  unfold proceed at proceeded
  cases point : state.point with
  | cleanup =>
      rw [point] at proceeded
      dsimp only at proceeded
      split at proceeded
      · exact @changes_playbackCleanup (state.goto .settings) after giver _ proceeded
      · cases proceeded
        exact .refl
  | settings =>
      rw [point] at proceeded
      dsimp only at proceeded
      split at proceeded
      · cases proceeded
        unfold changePianoSettings
        split <;> exact .of_same rfl rfl
      · cases proceeded
        exact .refl
  | login =>
      rw [point] at proceeded
      dsimp only at proceeded
      split at proceeded
      · obtain ⟨server, switched, rfl⟩ := serve_ok proceeded
        obtain kept | ⟨middle, response, kept, rfl⟩ :=
          Server.setPandoraUser_tells bookkeeping_undisturbed world.world _ switched
        · exact .of_same kept.receptions kept.occurrences
        · exact .of_switches (.of_event kept.receptions kept.occurrences .authenticated response)
      · cases proceeded
        exact .refl
  | ready =>
      rw [point] at proceeded
      exact changes_startUp proceeded
  | fetch =>
      rw [point] at proceeded
      exact changes_fetch proceeded
  | launch newList =>
      rw [point] at proceeded
      exact changes_launch proceeded
  | announce newList =>
      rw [point] at proceeded
      dsimp only [announce] at proceeded
      split at proceeded
      · cases proceeded
      · split at proceeded
        · have kept := controlsKept_applyStationInfo proceeded
          exact .of_same kept.receptions kept.occurrences
        · cases proceeded
          exact .refl
  | monitor =>
      rw [point] at proceeded
      dsimp only at proceeded
      split at proceeded
      · exact @changes_checkPlayerStatus (state.goto .expire) after giver world proceeded
      · cases proceeded
        exact .refl
  | expire =>
      rw [point] at proceeded
      cases proceeded
      have kept := @controlsKept_expire state world.world.now
      exact .of_same kept.receptions kept.occurrences
  | service =>
      rw [point] at proceeded
      dsimp only at proceeded
      split at proceeded
      · cases proceeded
      · rename_i middle served
        obtain ⟨receptions, occurrences⟩ := checkSignal_same proceeded
        exact (@changes_runService (state.goto .cleanup) middle giver world.world crypt world.event
          (own point) served).followed receptions occurrences
  | stopped =>
      rw [point] at proceeded
      cases proceeded
      exact .refl

end LoopState

namespace Changed

variable {giver : Option Nat} {session : Nat} {before after : Reception}
  {occurrences : List Occurrence}

/-- Waiting connections are not read from, whatever happens. -/
theorem disabled (changed : Changed giver session before occurrences after)
    (disabled : before.Disabled) : after.Disabled := by
  cases changed with
  | switched switched => exact switched.disabled disabled
  | arrives fresh => exact fun waits => absurd rfl waits
  | leaves => exact fun waits => absurd rfl waits

/-- Only its own command makes a connection wait. -/
theorem idle (changed : Changed giver session before occurrences after)
    (other : giver ≠ some session) (idle : before.waitingFor = none) : after.waitingFor = none := by
  cases changed with
  | switched switched => exact switched.idle other idle
  | arrives fresh => rfl
  | leaves => rfl

end Changed

/-- The events that have occurred between two states. -/
def Application.happened (before after : Application) : List Occurrence :=
  after.occurrences.drop before.occurrences.length

private theorem Application.happened_eq {before after : Application} {occurrences : List Occurrence}
    (grown : after.occurrences = before.occurrences ++ occurrences) :
    before.happened after = occurrences := by
  rw [happened, grown, List.drop_left]

/-- What becomes of a connection that waits for an event, while certain events occur. -/
inductive WaitOutcome (session : Nat) (event : WaitEvent) (occurrences : List Occurrence)
    (before after : Reception) : Prop where
  /-- The event does not occur. -/
  | waits (kept : after = before) (quiet : ∀ occurrence ∈ occurrences, occurrence.event ≠ event)
  | closed (closed : after.isOpen = false)
  /-- The event occurs and answers the connection once. -/
  | told (occurrence : Occurrence) (happens : occurrences = [occurrence])
      (same : occurrence.event = event) (answered : occurrence.Answers session 1)
      (resumed : after = before.resume)

/-- How an event concerns a connection: those that wait for it are answered once and read from
again, and nobody else is. -/
structure ConcernedBy (occurrence : Occurrence) (session : Nat) (before after : Reception) :
    Prop where
  answered : occurrence.Answers session (if before.awaits occurrence.event then 1 else 0)
  resumed : before.awaits occurrence.event = true → after = before.resume
  others : before.awaits occurrence.event = false → after.readable = true → before.readable = true

section Outcomes

variable {giver : Option Nat} {session : Nat} {event : WaitEvent} {occurrences : List Occurrence}
  {before after : Reception}

theorem Changed.outcome (changed : Changed giver session before occurrences after)
    (waiting : before.waitingFor = some event) :
    WaitOutcome session event occurrences before after := by
  cases changed with
  | switched switched =>
      cases switched with
      | same => exact .waits rfl nofun
      | waits event own idle isOpen => exact absurd (waiting.symm.trans idle) nofun
      | closes => exact .closed rfl
      | told occurrence waits isOpen answered =>
          exact .told occurrence rfl (Option.some.inj (waits.symm.trans waiting)) answered rfl
      | passes occurrence other unanswered =>
          cases isOpen : before.isOpen with
          | false => exact .closed isOpen
          | true =>
              refine .waits rfl fun same member => ?_
              rw [List.mem_singleton.mp member]
              exact fun equal => other isOpen (equal ▸ waiting)
  | arrives fresh =>
      rw [fresh] at waiting
      cases waiting
  | leaves => exact .closed rfl

theorem Changed.concerned (changed : Changed giver session before occurrences after)
    {occurrence : Occurrence} (occurs : occurrence ∈ occurrences) :
    ConcernedBy occurrence session before after := by
  cases changed with
  | switched switched =>
      cases switched with
      | same => cases occurs
      | waits event own idle isOpen => cases occurs
      | closes _ idle unanswered =>
          have waitless : before.waitingFor = none := by
            rcases idle with rfl | idle
            · cases occurs
            · exact idle
          have unaware : before.awaits occurrence.event = false := by
            simp [Reception.awaits, waitless]
          refine ⟨?_, fun aware => ?_, fun _ reads => absurd reads Bool.false_ne_true⟩
          · rw [unaware]
            exact unanswered occurrence occurs
          · exact absurd (unaware.symm.trans aware) Bool.false_ne_true
      | told same waiting isOpen answered =>
          obtain rfl := List.mem_singleton.mp occurs
          have aware : before.awaits occurrence.event = true :=
            Bool.and_eq_true_iff.mpr ⟨isOpen, beq_iff_eq.mpr waiting⟩
          refine ⟨?_, fun _ => rfl, fun unaware => ?_⟩
          · rw [aware]
            exact answered
          · exact absurd (unaware.symm.trans aware) Bool.false_ne_true
      | passes same other unanswered =>
          obtain rfl := List.mem_singleton.mp occurs
          have unaware : before.awaits occurrence.event = false := by
            rw [Bool.eq_false_iff]
            intro aware
            obtain ⟨isOpen, waiting⟩ := Bool.and_eq_true_iff.mp aware
            exact other isOpen (beq_iff_eq.mp waiting)
          refine ⟨?_, fun aware => ?_, fun _ reads => reads⟩
          · rw [unaware]
            exact unanswered
          · exact absurd (unaware.symm.trans aware) Bool.false_ne_true
  | arrives fresh => cases occurs
  | leaves => cases occurs

private theorem ConcernedBy.of_idle {occurrence : Occurrence} {middle : Reception}
    (concerned : ConcernedBy occurrence session middle after) (idle : before.waitingFor = none)
    (waitingFor : middle.waitingFor = before.waitingFor)
    (readable : middle.readable = before.readable) :
    ConcernedBy occurrence session before after := by
  have unaware : before.awaits occurrence.event = false := by simp [Reception.awaits, idle]
  have same : middle.awaits occurrence.event = false := by
    simp [Reception.awaits, waitingFor, idle]
  have answered := concerned.answered
  refine ⟨?_, fun aware => ?_, fun _ reads => readable ▸ concerned.others same reads⟩
  · rwa [unaware, ← same]
  · exact absurd (unaware.symm.trans aware) Bool.false_ne_true

end Outcomes

namespace PolledLoop

variable {crypt : Text → Text → Text} {polled after : PolledLoop}

/-- The invariant of polling. -/
structure Kept (polled : PolledLoop) : Prop where
  disabled : ∀ session, (polled.loop.app.context session).reception.Disabled
  nodup : polled.lastReading.Nodup
  idle : ∀ session ∈ polled.lastReading, (polled.loop.app.context session).waitingFor = none

private theorem changes_step {action : LoopAction} {state after : LoopState}
    (quiet : ¬(state.point = .service ∧ action.isInput = true))
    (stepped : state.step crypt action = .ok after) : Changes none state.app after.app := by
  cases action with
  | proceed world =>
      refine LoopState.changes_proceed ?_ stepped
      intro service other line inRange same
      exact absurd ⟨service, by simp [LoopAction.isInput, same]⟩ quiet
  | advance mode =>
      cases stepped
      unfold LoopState.advance
      split <;> exact .of_same rfl rfl
  | signal =>
      cases stepped
      exact .of_same rfl rfl

theorem reception_modifyContext (state : LoopState) (session other : Nat)
    (change : UserContext → UserContext) :
    ((state.modifyContext session change).app.context other).reception =
      if other = session ∧ other < state.app.contexts.length then
        (change (state.app.context other)).reception
      else (state.app.context other).reception :=
  Application.reception_modifyContext

/-- What a step comes to: a connection that is read from may notice that TLS has decrypted more, and
then things change. -/
structure Advance (polled after : PolledLoop) (giver : Option Nat) (middle : Application) :
    Prop where
  own : ∀ session, giver = some session →
    (polled.loop.app.context session).reception.waitingFor = none
  others : ∀ session, giver ≠ some session →
    (middle.context session).reception = (polled.loop.app.context session).reception
  waitingFor : ∀ session, (middle.context session).reception.waitingFor =
    (polled.loop.app.context session).reception.waitingFor
  readable : ∀ session, (middle.context session).reception.readable =
    (polled.loop.app.context session).reception.readable
  occurrences : middle.occurrences = polled.loop.app.occurrences
  changes : Changes giver middle after.loop.app
  nodup : after.lastReading.Nodup
  idle : ∀ session ∈ after.lastReading, giver ≠ some session ∧
    (polled.loop.app.context session).reception.waitingFor = none

/-- Without a command, the connections that are to be read from are the same. -/
theorem Kept.advance_quiet (kept : polled.Kept) {loop : LoopState}
    (changes : Changes none polled.loop.app loop.app) :
    Advance polled (polled.withLoop loop) none polled.loop.app :=
  ⟨nofun, fun _ _ => rfl, fun _ => rfl, fun _ => rfl, rfl, changes, kept.nodup,
    fun session marked => ⟨nofun, kept.idle session marked⟩⟩

theorem changes_closeConnection (state : LoopState) (session : Nat) {giver : Option Nat} :
    Changes giver state.app (state.modifyContext session (·.closeConnection)).app := by
  refine .of_switches (.of_closing rfl fun other => ?_)
  rw [reception_modifyContext]
  split
  · exact .inr rfl
  · exact .inl rfl

/-- Reading from a connection, and executing a command of its own. -/
theorem Kept.advance_read (kept : polled.Kept) {world : LoopWorld} {session : Nat}
    {pending : Bool} {outcome : ReadOutcome} (turn : session ∈ polled.lastReading)
    (ran : polled.read crypt world session pending outcome = .ok after) :
    ∃ middle, Advance polled after (some session) middle := by
  have marks : ∀ other ∈ polled.lastReading.erase session, some session ≠ some other ∧
      (polled.loop.app.context other).reception.waitingFor = none := fun other marked => by
    rw [kept.nodup.mem_erase_iff] at marked
    exact ⟨fun same => marked.1 (Option.some.inj same).symm, kept.idle other marked.2⟩
  have own : ∀ other, some session = some other →
      (polled.loop.app.context other).reception.waitingFor = none := fun other same =>
    Option.some.inj same ▸ kept.idle session turn
  have buffered (other : Nat) := reception_modifyContext polled.loop session other fun context =>
    { context with
      recordPending := pending
      buffering := context.readable && pending }
  have others : ∀ other, some session ≠ some other →
      ((polled.buffered session pending).app.context other).reception =
        (polled.loop.app.context other).reception := fun other different =>
    (buffered other).trans (if_neg fun same => different (congrArg some same.1.symm))
  have waitingFor : ∀ other,
      ((polled.buffered session pending).app.context other).reception.waitingFor =
        (polled.loop.app.context other).reception.waitingFor := fun other => by
    refine (congrArg Reception.waitingFor (buffered other)).trans ?_
    split <;> rfl
  have readable : ∀ other,
      ((polled.buffered session pending).app.context other).reception.readable =
        (polled.loop.app.context other).reception.readable := fun other => by
    refine (congrArg Reception.readable (buffered other)).trans ?_
    split <;> rfl
  unfold read at ran
  dsimp only at ran
  split at ran
  · cases ran
  · cases outcome with
    | incomplete =>
        cases ran
        exact ⟨(polled.buffered session pending).app, own, others, waitingFor, readable, rfl, .refl,
          kept.nodup.erase session, marks⟩
    | line line inRange =>
        obtain ⟨last, proceeded, rfl⟩ := FallibleRun.map_ok_iff.mp ran
        refine ⟨(polled.buffered session pending).app, own, others, waitingFor, readable, rfl,
          LoopState.changes_proceed ?_ proceeded, kept.nodup.erase session, marks⟩
        rintro - _ _ _ ⟨⟩
        exact ⟨rfl, (waitingFor session).trans (kept.idle session turn)⟩
    | endOfInput =>
        cases ran
        exact ⟨polled.loop.app, own, fun _ _ => rfl, fun _ => rfl, fun _ => rfl, rfl,
          changes_closeConnection polled.loop session, kept.nodup.erase session, marks⟩

/-- One case for each action. -/
theorem Kept.advance {action : PollAction} (kept : polled.Kept)
    (stepped : polled.step crypt action = .ok after) :
    ∃ giver middle, Advance polled after giver middle := by
  have same : Advance polled polled none polled.loop.app := kept.advance_quiet .refl
  cases action with
  | loop action =>
      dsimp only [step] at stepped
      split at stepped
      · cases stepped
        exact ⟨none, _, same⟩
      · rename_i quiet
        obtain ⟨last, moved, rfl⟩ := FallibleRun.map_ok_iff.mp stepped
        exact ⟨none, _, kept.advance_quiet (changes_step quiet moved)⟩
  | select ready =>
      dsimp only [step] at stepped
      split at stepped
      · cases stepped
        refine ⟨none, polled.loop.app, nofun, fun _ _ => rfl, fun _ => rfl, fun _ => rfl, rfl,
          .refl, List.nodup_range.filter _, fun session marked => ⟨nofun, ?_⟩⟩
        obtain ⟨-, accepts⟩ := List.mem_filter.mp marked
        simp only [Bool.and_eq_true, Bool.or_eq_true] at accepts
        by_contra waits
        obtain ⟨unread, unbuffered⟩ := kept.disabled session waits
        obtain ⟨-, readable | buffering⟩ := accepts
        · exact absurd (unread.symm.trans readable) Bool.false_ne_true
        · exact absurd (unbuffered.symm.trans buffering) Bool.false_ne_true
      · cases stepped
        exact ⟨none, _, same⟩
  | read world session pending outcome =>
      dsimp only [step] at stepped
      split at stepped
      · rename_i turn
        exact ⟨some session, kept.advance_read turn.2 stepped⟩
      · cases stepped
        exact ⟨none, _, same⟩
  | writeFails session =>
      dsimp only [step] at stepped
      split at stepped
      · cases stepped
        exact ⟨none, _, kept.advance_quiet (changes_closeConnection polled.loop session)⟩
      · cases stepped
        exact ⟨none, _, same⟩

section Advance

variable {giver : Option Nat} {middle : Application} (advance : Advance polled after giver middle)

include advance

/-- A connection is switched by the events that happen, after it may have noticed that TLS has
decrypted more. -/
theorem Advance.changed (session : Nat) :
    Changed giver session (middle.context session).reception
      (polled.loop.app.happened after.loop.app) (after.loop.app.context session).reception := by
  obtain ⟨occurrences, grown, changed⟩ := advance.changes
  rw [advance.occurrences] at grown
  rw [Application.happened_eq grown]
  exact changed session

theorem Advance.kept (kept : polled.Kept) : after.Kept := by
  refine ⟨fun session => (advance.changed session).disabled ?_, advance.nodup,
    fun session marked => ?_⟩
  · by_cases own : giver = some session
    · exact fun waits => absurd ((advance.waitingFor session).trans (advance.own session own)) waits
    · rw [advance.others session own]
      exact kept.disabled session
  · obtain ⟨other, idle⟩ := advance.idle session marked
    exact (advance.changed session).idle other ((advance.waitingFor session).trans idle)

/-- A connection that waits does so until the event, unless it is closed. -/
theorem Advance.outcome {session : Nat} {event : WaitEvent}
    (waiting : (polled.loop.app.context session).reception.waitingFor = some event) :
    WaitOutcome session event (polled.loop.app.happened after.loop.app)
      (polled.loop.app.context session).reception (after.loop.app.context session).reception := by
  have changed := advance.changed session
  rw [advance.others session fun own => ?_] at changed
  · exact changed.outcome waiting
  · rw [advance.own session own] at waiting
    cases waiting

theorem Advance.concerned (session : Nat) {occurrence : Occurrence}
    (occurs : occurrence ∈ polled.loop.app.happened after.loop.app) :
    ConcernedBy occurrence session (polled.loop.app.context session).reception
      (after.loop.app.context session).reception := by
  have concerned := (advance.changed session).concerned occurs
  by_cases own : giver = some session
  · exact concerned.of_idle (advance.own session own) (advance.waitingFor session)
      (advance.readable session)
  · rwa [advance.others session own] at concerned

end Advance

theorem kept_initial (app : Application) (startscript : Bool) : (initial app startscript).Kept := by
  refine ⟨fun session waits => ?_, .nil, nofun⟩
  unfold initial LoopState.initial Application.context at waits
  dsimp only at waits
  split at waits
  · cases session with
    | zero => exact absurd rfl waits
    | succ session => exact absurd rfl waits
  · exact absurd rfl waits

end PolledLoop

/-! ## Waiting is well formed -/

/-- Waiting is well formed, but for commands that are executed on behalf of a user. -/
structure WaitingSound (crypt : Text → Text → Text) (polled : PolledLoop) : Prop where
  /-- Wherever a command line makes a connection wait, it can wait. -/
  calls : ∀ session pending line inner event, session ∈ polled.lastReading →
    (polled.loop.app.context session).isOpen = true →
    Server.waitCall crypt ⟨(polled.buffered session pending).app, []⟩ session line =
      some (inner, event) →
    (inner.CanWait session ↔ line.forUser = false)
  /-- Such a command line does nothing else to the connections but to close its own beforehand. -/
  called : ∀ world session pending line inner event,
    Server.waitCall crypt ⟨(polled.buffered session pending).app, []⟩ session line =
      some (inner, event) →
    (Server.execute world crypt ⟨(polled.buffered session pending).app, []⟩ session line).map
        (·.app.receptions) =
      (inner.waitForEvent session event).map (·.app.receptions)
  /-- No other command line makes a connection wait. -/
  uncalled : ∀ world session pending line after other, line.InRange →
    session ∈ polled.lastReading →
    Server.waitCall crypt ⟨(polled.buffered session pending).app, []⟩ session line = none →
    Server.execute world crypt ⟨(polled.buffered session pending).app, []⟩ session line =
      .ok after →
    (polled.loop.app.context other).waitingFor = none →
    (after.app.context other).waitingFor = none
  disabled : ∀ session event, (polled.loop.app.context session).waitingFor = some event →
    (polled.loop.app.context session).readable = false ∧
      (polled.loop.app.context session).buffering = false
  waits : ∀ session event action after,
    (polled.loop.app.context session).waitingFor = some event →
    polled.step crypt action = .ok after →
    WaitOutcome session event (polled.loop.app.happened after.loop.app)
      (polled.loop.app.context session).reception (after.loop.app.context session).reception
  /-- Each event that occurs concerns those that wait for it, and nobody else. -/
  answers : ∀ session occurrence action after, polled.step crypt action = .ok after →
    occurrence ∈ polled.loop.app.happened after.loop.app →
    ConcernedBy occurrence session (polled.loop.app.context session).reception
      (after.loop.app.context session).reception

theorem PolledLoop.Kept.sound {crypt : Text → Text → Text} {polled : PolledLoop}
    (kept : polled.Kept) : WaitingSound crypt polled := by
  have buffered (session other : Nat) (pending : Bool) :
      ((polled.buffered session pending).app.context other).waitingFor =
          (polled.loop.app.context other).waitingFor ∧
        ((polled.buffered session pending).app.context other).isOpen =
          (polled.loop.app.context other).isOpen := by
    unfold PolledLoop.buffered LoopState.modifyContext LoopState.withApp
    dsimp only
    rw [Application.context_modifyContext]
    split <;> exact ⟨rfl, rfl⟩
  refine ⟨?_, ?_, ?_, ?_, ?_, ?_⟩
  · intro session pending line inner event marked isOpen called
    obtain ⟨waitingFor, opened⟩ := buffered session session pending
    exact canWait_iff (waitingFor.trans (kept.idle session marked)) (opened.trans isOpen) called
  · intro world session pending line inner event called
    exact execute_of_waitCall called
  · intro world session pending line after other inRange marked called executed idle
    exact idle_execute inRange called
      ((buffered session session pending).1.trans (kept.idle session marked)) executed
      ((buffered session other pending).1.trans idle)
  · intro session event waiting
    refine kept.disabled session ?_
    rw [show (polled.loop.app.context session).reception.waitingFor = some event from waiting]
    nofun
  · intro session event action after waiting stepped
    obtain ⟨giver, middle, advance⟩ := kept.advance stepped
    exact advance.outcome waiting
  · intro session occurrence action after stepped occurs
    obtain ⟨giver, middle, advance⟩ := kept.advance stepped
    exact advance.concerned session occurs

/-- In every state that is reached, a connection is made to wait only if it can, unless on behalf of
a user; its input is disabled until the event; and an event that occurs answers those that wait for
it, once each. -/
theorem waitingSound_of_run {crypt : Text → Text → Text} {app : Application} {startscript : Bool}
    {actions : List PollAction} {polled : PolledLoop}
    (arrives : FallibleRun.run (PolledLoop.step crypt) (.initial app startscript) actions =
      .ok polled) : WaitingSound crypt polled := by
  have free : FallibleRun.Guarded (PolledLoop.step crypt) (fun _ _ => True)
      (.initial app startscript) actions :=
    FallibleRun.guarded_of_forall (fun _ _ => trivial) _ actions
  exact (free.invariant PolledLoop.Kept
    (fun _ _ _ kept _ stepped =>
      let ⟨_, _, advance⟩ := kept.advance stepped
      advance.kept kept)
    (PolledLoop.kept_initial app startscript) arrives).sound

/-! ## Waiting on behalf of a user -/

/-- A listener with a password. -/
def sampleListener : Application :=
  let app := sampleApplication .listener
  { app with
    users := { app.users with
      userList := app.users.userList.map fun user => { user with password := ascii "./xyz" } } }

/-- A section in which the service reports an event. -/
def sampleSection (event : ServiceEvent) : PollAction :=
  .loop (.proceed { sampleLoopWorld none with event := event })

/-- Somebody connects, and input arrives. -/
def sampleConnects : List PollAction :=
  List.replicate 7 (sampleSection .connect) ++ List.replicate 6 (sampleSection .timeout) ++
    [.select [0]]

/-- Waiting for the next song on behalf of the listener. -/
def sampleWait : CommandLine :=
  .asUser (ascii "ann") (ascii "secret") false (.plain .waitForNextSong)

theorem sampleConnects_sound : ∃ polled,
    FallibleRun.run (PolledLoop.step fun _ salt => salt) (.initial sampleListener false)
      sampleConnects = .ok polled ∧ polled.lastReading = [0] ∧
      WaitingSound (fun _ salt => salt) polled := by
  obtain ⟨polled, arrives, marked⟩ : ∃ polled,
      FallibleRun.run (PolledLoop.step fun _ salt => salt) (.initial sampleListener false)
        sampleConnects = .ok polled ∧ polled.lastReading = [0] := ⟨_, rfl, rfl⟩
  exact ⟨polled, arrives, marked, waitingSound_of_run arrives⟩

/-- The connection is closing already when it is made to wait, and the server stops. -/
theorem sampleWait_stops : ∃ polled inner event,
    FallibleRun.run (PolledLoop.step fun _ salt => salt) (.initial sampleListener false)
      sampleConnects = .ok polled ∧
    0 ∈ polled.lastReading ∧ (polled.loop.app.context 0).isOpen = true ∧
    Server.waitCall (fun _ salt => salt) ⟨(polled.buffered 0 false).app, []⟩ 0 sampleWait =
      some (inner, event) ∧ ¬inner.CanWait 0 ∧
    polled.step (fun _ salt => salt) (.read (sampleLoopWorld none) 0 false
        (.line sampleWait trivial)) =
      .error (.other (.assertion "connection->state == FB_SOCKET_STATE_OPEN")) :=
  ⟨_, _, _, rfl, by decide, rfl, rfl, fun waits => Bool.false_ne_true waits.2, rfl⟩

end Pianod
