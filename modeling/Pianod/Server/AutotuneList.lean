import Pianod.Server.DisregardedUsers
import Pianod.Server.Enduring

/-!
# The list of the users considered

`AUTOTUNE LIST USERS` goes through the user list and looks for connections, and the tuner goes
through the connections and the user list.  They agree on everybody but the start script: its user
is in no list, but as long as the script runs it is connected, and heard.
-/

namespace Pianod

open Foundation

/-- The modes of autotuning. -/
def autotuneModes : List UInt32 := [tuneOnLogins, tuneOnAttribute, tuneOnAll]

/-- The grammar admits three modes. -/
def Command.KnownMode : Command → Prop
  | .autotuneSetMode mode => mode ∈ autotuneModes
  | _ => True

namespace Application

/-- The users that `AUTOTUNE LIST USERS` shows. -/
def autotuneUsers (app : Application) : List User :=
  app.users.userList.filter (Server.selectsUser app .autotune)

/-- The users shown are exactly those whose ratings the tuner applies. -/
def TellsElectorate (app : Application) : Prop :=
  ∀ user, user ∈ app.autotuneUsers ↔ user ∈ app.tuningContext.electorate

/-- The start script is running while users are considered who are logged in. -/
def StartscriptHeard (app : Application) : Prop :=
  app.settings.automaticMode &&& tuneOnLogins ≠ 0 ∧
    ∃ context ∈ app.contexts, context.isOpen = true ∧ context.user = some .startscript

/-- Users are told apart, and the mode is one of the three. -/
structure Orderly (app : Application) : Prop where
  users : Numbered app.users
  mode : app.settings.automaticMode ∈ autotuneModes

end Application

open Application

/-! ## One state -/

namespace Application

variable {app : Application} {user : User}

private theorem isListening_iff :
    Server.isListening app user = true ↔ ∃ context ∈ app.contexts,
      context.isOpen = true ∧ context.user = some (.listed user.serial) := by
  simp [Server.isListening]

/-- On an open connection there is the start script's user, or a listed one. -/
theorem connected_iff (numbered : Numbered app.users) :
    ⟨true, some user⟩ ∈ app.tuningContext.listeners ↔
      (user = app.users.startscript ∧
        ∃ context ∈ app.contexts, context.isOpen = true ∧ context.user = some .startscript) ∨
      (user ∈ app.users.userList ∧ Server.isListening app user = true) := by
  rw [isListening_iff]
  constructor
  · intro member
    obtain ⟨context, there, same⟩ := List.mem_map.mp member
    obtain ⟨isOpen, found⟩ := Listener.mk.inj same
    obtain ⟨ref, entered, known⟩ := Option.bind_eq_some_iff.mp found
    obtain ⟨rfl, rfl⟩ | ⟨rfl, listed⟩ := user?_eq_some known
    · exact .inl ⟨rfl, context, there, isOpen, entered⟩
    · exact .inr ⟨listed, context, there, isOpen, entered⟩
  · rintro (⟨rfl, context, there, isOpen, entered⟩ | ⟨listed, context, there, isOpen, entered⟩)
    · exact List.mem_map.mpr ⟨context, there, by rw [isOpen, entered]; rfl⟩
    · refine List.mem_map.mpr ⟨context, there, ?_⟩
      rw [isOpen, entered, Option.bind_some, numbered.user?_listed listed]

/-- The list asks of a user what the mode asks. -/
theorem selectsUser_iff (mode : app.settings.automaticMode ∈ autotuneModes) :
    Server.selectsUser app .autotune user = true ↔
      app.users.havePrivilege (some user) .influence = true ∧
        ((app.settings.automaticMode &&& tuneOnLogins ≠ 0 ∧ Server.isListening app user = true) ∨
          (app.settings.automaticMode &&& tuneOnAttribute ≠ 0 ∧
            app.users.havePrivilege (some user) .present = true)) := by
  unfold Server.selectsUser
  dsimp only
  rw [Bool.and_eq_true]
  refine and_congr_right fun _ => ?_
  have other : tuneOnAttribute ≠ tuneOnLogins := by decide
  have all : tuneOnAll ≠ tuneOnLogins ∧ tuneOnAll ≠ tuneOnAttribute := by decide
  have logins : tuneOnLogins ≠ 0 ∧ tuneOnLogins &&& tuneOnAttribute = 0 := by decide
  have flags : tuneOnAttribute ≠ 0 ∧ tuneOnAttribute &&& tuneOnLogins = 0 := by decide
  have both : tuneOnAll &&& tuneOnLogins ≠ 0 ∧ tuneOnAll &&& tuneOnAttribute ≠ 0 := by decide
  simp only [autotuneModes, List.mem_cons, List.not_mem_nil, or_false] at mode
  rcases mode with same | same | same
  · simp [same, logins]
  · simp [same, other, flags]
  · simp [same, all, both, or_comm]

/-- The list is right exactly unless the start script is heard. -/
theorem tellsElectorate_iff (orderly : Orderly app) :
    app.TellsElectorate ↔ ¬app.StartscriptHeard := by
  have heard (user : User) : user ∈ app.tuningContext.electorate ↔
      app.users.havePrivilege (some user) .influence = true ∧
        ((app.settings.automaticMode &&& tuneOnLogins ≠ 0 ∧
            ⟨true, some user⟩ ∈ app.tuningContext.listeners) ∨
          (app.settings.automaticMode &&& tuneOnAttribute ≠ 0 ∧ user ∈ app.users.userList ∧
            app.users.havePrivilege (some user) .present = true)) := by
    rw [TuningContext.electorate, List.mem_filter, TuningContext.mem_considered, and_comm]
    rfl
  constructor
  · rintro tells ⟨logins, running⟩
    have counted : app.users.startscript ∈ app.tuningContext.electorate := by
      rw [heard]
      have connected := (connected_iff orderly.users).mpr (.inl ⟨rfl, running⟩)
      refine ⟨?_, .inl ⟨logins, connected⟩⟩
      have influence := orderly.users.influence
      simpa [UserDatabase.havePrivilege] using influence
    exact orderly.users.startscript_unlisted (List.mem_of_mem_filter ((tells _).mpr counted))
  · intro silent user
    rw [heard, autotuneUsers, List.mem_filter, selectsUser_iff orderly.mode,
      connected_iff orderly.users]
    constructor
    · rintro ⟨listed, influence, ⟨logins, listening⟩ | ⟨flags, present⟩⟩
      · exact ⟨influence, .inl ⟨logins, .inr ⟨listed, listening⟩⟩⟩
      · exact ⟨influence, .inr ⟨flags, listed, present⟩⟩
    · rintro ⟨influence, ⟨logins, ⟨-, running⟩ | ⟨listed, listening⟩⟩ | ⟨flags, listed, present⟩⟩
      · exact absurd ⟨logins, running⟩ silent
      · exact ⟨listed, influence, .inl ⟨logins, listening⟩⟩
      · exact ⟨listed, influence, .inr ⟨flags, present⟩⟩

end Application

/-! ## Every state reached -/

/-- Whatever happens in the loop, the users stay apart and the mode is known. -/
theorem enduring_orderly : Enduring Command.KnownMode Orderly where
  frame orderly users numbers := by
    refine ⟨?_, ?_⟩
    · rw [users]
      exact orderly.users
    · rw [automaticMode_of_numbers numbers]
      exact orderly.mode
  users revised orderly := ⟨orderly.users.revise revised, orderly.mode⟩
  adjusts {app command settings} admitted given orderly := by
    refine ⟨orderly.users, ?_⟩
    cases command with
    | autotuneSetMode mode =>
        cases given
        exact admitted
    | setVolume level =>
        obtain ⟨volume, -, rfl⟩ := given
        exact orderly.mode
    | setHistorySize | setPauseTimeout | setPlaylistTimeout | setPandoraRetry =>
        cases given
        exact orderly.mode
    | _ => exact given.elim

/-- In every state that is reached, whatever connections there were then, the users shown are those
whose ratings are applied exactly unless the start script is running while users are considered who
are logged in. -/
theorem PolledLoop.tellsElectorate_iff_of_run {crypt : Text → Text → Text}
    {file : List UserElement} {adminPassword : Text} {app : Application} {startscript : Bool}
    {actions : List PollAction} {polled : PolledLoop}
    (restored : UserDatabase.empty.usersRestore file adminPassword = .ok app.users)
    (mode : app.settings.automaticMode = tuneOnLogins)
    (known : ∀ action ∈ actions, action.All Command.KnownMode)
    (arrives : FallibleRun.run (PolledLoop.step crypt) (PolledLoop.initial app startscript)
      actions = .ok polled) (contexts : List UserContext) :
    { polled.loop.app with contexts := contexts }.TellsElectorate ↔
      ¬{ polled.loop.app with contexts := contexts }.StartscriptHeard := by
  have start : Orderly { app with settings := { app.settings with historyLength := 5 } } :=
    ⟨.restore restored, by rw [mode]; exact List.mem_cons_self⟩
  have orderly := enduring_orderly.run known arrives (enduring_orderly.initial start)
  exact tellsElectorate_iff ⟨orderly.users, orderly.mode⟩

/-! ## A start script is running -/

/-- The users of a server that has no user file: an administrator. -/
def sampleUsers : UserDatabase :=
  match UserDatabase.empty.usersRestore [] (ascii "./xyz") with
  | .ok users => users
  | .error _ => .empty

private theorem sampleUsers_restored :
    UserDatabase.empty.usersRestore [] (ascii "./xyz") = .ok sampleUsers := rfl

/-- Nobody is connected yet. -/
def sampleStart : Application := { sampleApplication .standard with users := sampleUsers }

/-- Somebody connects while the start script waits. -/
def sampleScript : List PollAction := List.replicate 7 (sampleSection .connect)

private theorem sampleScript_known : ∀ action ∈ sampleScript, action.All Command.KnownMode := by
  intro action member
  rw [List.eq_of_mem_replicate member]
  trivial

private theorem sampleScript_arrives : ∃ polled,
    FallibleRun.run (PolledLoop.step fun _ salt => salt) (.initial sampleStart true)
      sampleScript = .ok polled ∧ polled.loop.app.StartscriptHeard :=
  ⟨_, rfl, by decide, _, List.mem_cons_self, rfl, rfl⟩

theorem sampleScript_tells : ∃ polled,
    FallibleRun.run (PolledLoop.step fun _ salt => salt) (.initial sampleStart true)
      sampleScript = .ok polled ∧
      ({ polled.loop.app with contexts := [] }.TellsElectorate ↔
        ¬{ polled.loop.app with contexts := [] }.StartscriptHeard) := by
  obtain ⟨polled, arrives, -⟩ := sampleScript_arrives
  exact ⟨polled, arrives, PolledLoop.tellsElectorate_iff_of_run sampleUsers_restored rfl
    sampleScript_known arrives []⟩

/-- The tuner applies the start script's ratings, and the list does not show it. -/
theorem sampleScript_untold : ∃ polled,
    FallibleRun.run (PolledLoop.step fun _ salt => salt) (.initial sampleStart true)
      sampleScript = .ok polled ∧
      polled.loop.app.users.startscript ∈ polled.loop.app.tuningContext.electorate ∧
      polled.loop.app.users.startscript ∉ polled.loop.app.autotuneUsers ∧
      ¬polled.loop.app.TellsElectorate := by
  obtain ⟨polled, arrives, counted, unlisted⟩ : ∃ polled,
      FallibleRun.run (PolledLoop.step fun _ salt => salt) (.initial sampleStart true)
        sampleScript = .ok polled ∧
      polled.loop.app.users.startscript ∈ polled.loop.app.tuningContext.electorate ∧
      polled.loop.app.users.startscript.serial ∉
        polled.loop.app.users.userList.map User.serial :=
    ⟨_, rfl, List.mem_filter.mpr ⟨TuningContext.mem_considered.mpr
      (.inl ⟨by decide, List.mem_cons_self⟩), rfl⟩, by decide⟩
  have hidden : polled.loop.app.users.startscript ∉ polled.loop.app.autotuneUsers :=
    fun shown => unlisted (List.mem_map_of_mem (List.mem_of_mem_filter shown))
  exact ⟨polled, arrives, counted, hidden, fun tells => hidden ((tells _).mpr counted)⟩

end Pianod
