import Pianod.Server.Commands
import Pianod.Server.TunerCoherence

/-!
# Sessions of low privilege

A listener, or a visitor where visitors are no more than listeners, may look at everything but steer
nothing.  What such a session can change are its own password and station ratings, and through the
ratings the mix flags while autotuning is on.
-/

namespace Pianod

open Foundation

/-- A user record without what the user may change. -/
def User.fixed (user : User) : User := { user with password := [], stationPreferences := none }

/-- What every change leaves alone. -/
theorem User.of_fixed {first second : User} (same : first.fixed = second.fixed) :
    first.serial = second.serial ∧ first.rank = second.rank ∧
      first.privileges = second.privileges := by
  simp only [User.fixed, User.mk.injEq] at same
  exact ⟨same.1, same.2.2.2.1, same.2.2.2.2.1⟩

/-- A record as far as a session logged in as `who` may not change it. -/
def fixedView (who : Option UserRef) (ref : UserRef) (user : User) : User :=
  if who = some ref then user.fixed else user

/-- A station record without its mix flag. -/
def StationCell.unmixed (cell : StationCell) : StationCell :=
  { cell with station := { cell.station with useQuickMix := false } }

/-- Between two states, a session that may act as `who` has steered nothing: the lists of records
and the selection are the same, the mix flags may differ only while autotuning is on, and everything
else is the same except for what the server keeps for the session itself. -/
structure Steady (who : Option UserRef) (session : Nat) (before after : Application) : Prop where
  rest : ∃ stationState hadResults hasListeners users contexts, after = { before with
    stationState := stationState
    computationHadResults := hadResults
    computationHasListeners := hasListeners
    users := users
    contexts := contexts }
  selection : ∃ stations, after.stationState = { before.stationState with stations := stations }
  stations : after.stationState.stations.map (·.unmixed) =
    before.stationState.stations.map (·.unmixed)
  mix : before.automaticStations = false → after.stationState = before.stationState ∧
    after.computationHadResults = before.computationHadResults ∧
      after.computationHasListeners = before.computationHasListeners
  users : ∃ userList startscript dirty, after.users = { before.users with
    userList := userList
    startscript := startscript
    dirty := dirty }
  records : after.users.userList.map (fun user => fixedView who (.listed user.serial) user) =
    before.users.userList.map (fun user => fixedView who (.listed user.serial) user)
  startscript : fixedView who .startscript after.users.startscript =
    fixedView who .startscript before.users.startscript
  others : ∀ other, other ≠ session → after.contexts[other]? = before.contexts[other]?
  login : (after.context session).user = (before.context session).user ∨
    (after.context session).user = none

/-- The user whose own data a session may change: one who is logged in as a listener at least. -/
def Application.actor (app : Application) (session : Nat) : Option UserRef :=
  if app.haveRank session .listener then (app.context session).user else none

/-- The user of the session, if any, is at most a listener without privileges, and so are
visitors. -/
structure LowPrivilege (app : Application) (session : Nat) : Prop where
  visitors : app.users.visitorRank.level ≤ UserRank.listener.level
  user : ∀ user, app.user session = some user → user.rank.level ≤ UserRank.listener.level ∧
    user.privileges .service = false ∧ user.privileges .tuner = false ∧
      user.privileges .manager = false

namespace LowPrivilege

variable {app : Application} {session : Nat}

private theorem effectiveRank (low : LowPrivilege app session) :
    (app.users.getEffectiveRank (app.user session)).level ≤ UserRank.listener.level := by
  cases logged_in : app.user session with
  | none => exact low.visitors
  | some user => exact (low.user user logged_in).1

theorem haveRank {minimum : UserRank} (low : LowPrivilege app session)
    (above : UserRank.listener.level < minimum.level) : app.haveRank session minimum = false := by
  have rank := low.effectiveRank
  simp only [Application.haveRank, UserDatabase.haveRank, decide_eq_false_iff_not]
  omega

theorem havePrivilege {privilege : Privilege} (low : LowPrivilege app session)
    (lacks : ∀ user, app.user session = some user → user.privileges privilege = false)
    (kind : privilege = .service ∨ privilege = .tuner ∨ privilege = .manager) :
    app.havePrivilege session privilege = false := by
  have administrator := @haveRank app session .administrator low (by decide)
  simp only [Application.haveRank] at administrator
  simp only [Application.havePrivilege, UserDatabase.havePrivilege]
  split
  · exact administrator
  · rfl
  · rfl
  · rename_i user logged_in _ _
    have ordinary : user.rank ≠ .administrator := by
      intro rank
      have bound := (low.user user logged_in).1
      rw [rank] at bound
      exact absurd bound (by decide)
    rw [if_neg (fun both => ordinary both.1)]
    exact lacks user logged_in

theorem service (low : LowPrivilege app session) : app.havePrivilege session .service = false :=
  low.havePrivilege (fun user logged_in => (low.user user logged_in).2.1) (.inl rfl)

theorem tuner (low : LowPrivilege app session) : app.havePrivilege session .tuner = false :=
  low.havePrivilege (fun user logged_in => (low.user user logged_in).2.2.1) (.inr (.inl rfl))

theorem manager (low : LowPrivilege app session) : app.havePrivilege session .manager = false :=
  low.havePrivilege (fun user logged_in => (low.user user logged_in).2.2.2) (.inr (.inr rfl))

end LowPrivilege

/-! ## Steadiness over several steps -/

namespace Steady

variable {who : Option UserRef} {session : Nat} {first second third : Application}

theorem refl (who : Option UserRef) (session : Nat) (app : Application) :
    Steady who session app app where
  rest := ⟨_, _, _, _, _, rfl⟩
  selection := ⟨_, rfl⟩
  stations := rfl
  mix := fun _ => ⟨rfl, rfl, rfl⟩
  users := ⟨_, _, _, rfl⟩
  records := rfl
  startscript := rfl
  others := fun _ _ => rfl
  login := .inl rfl

theorem of_eq (same : second = first) : Steady who session first second := by
  rw [same]
  exact refl who session first

theorem automaticStations (steady : Steady who session first second) :
    second.automaticStations = first.automaticStations := by
  obtain ⟨_, _, _, _, _, same⟩ := steady.rest
  rw [same]

theorem trans (one : Steady who session first second) (two : Steady who session second third) :
    Steady who session first third where
  rest := by
    obtain ⟨_, _, _, _, _, rfl⟩ := one.rest
    obtain ⟨_, _, _, _, _, rfl⟩ := two.rest
    exact ⟨_, _, _, _, _, rfl⟩
  selection := by
    obtain ⟨_, same⟩ := one.selection
    obtain ⟨_, same'⟩ := two.selection
    rw [same', same]
    exact ⟨_, rfl⟩
  stations := two.stations.trans one.stations
  mix := fun manual => by
    obtain ⟨stations, hadResults, hasListeners⟩ := one.mix manual
    obtain ⟨stations', hadResults', hasListeners'⟩ :=
      two.mix (one.automaticStations.trans manual)
    exact ⟨stations'.trans stations, hadResults'.trans hadResults,
      hasListeners'.trans hasListeners⟩
  users := by
    obtain ⟨_, _, _, same⟩ := one.users
    obtain ⟨_, _, _, same'⟩ := two.users
    rw [same', same]
    exact ⟨_, _, _, rfl⟩
  records := two.records.trans one.records
  startscript := two.startscript.trans one.startscript
  others := fun other different => (two.others other different).trans (one.others other different)
  login := by
    rcases two.login with same | out
    · rw [same]
      exact one.login
    · exact .inr out

/-- What a visitor leaves alone, everyone leaves alone. -/
theorem of_visitor (steady : Steady none session first second) (who : Option UserRef) :
    Steady who session first second where
  rest := steady.rest
  selection := steady.selection
  stations := steady.stations
  mix := steady.mix
  users := steady.users
  records := by
    have same : second.users.userList = first.users.userList := by
      simpa [fixedView] using steady.records
    rw [same]
  startscript := by
    have same : second.users.startscript = first.users.startscript := by
      simpa [fixedView] using steady.startscript
    rw [same]
  others := steady.others
  login := steady.login

/-- Changes to what is kept for the session itself are no matter, unless they log somebody in. -/
theorem modifyContext (who : Option UserRef) (app : Application) (session : Nat)
    {change : UserContext → UserContext}
    (enters : ∀ context, (change context).user = context.user ∨ (change context).user = none) :
    Steady who session app (app.modifyContext session change) where
  rest := ⟨_, _, _, _, _, rfl⟩
  selection := ⟨_, rfl⟩
  stations := rfl
  mix := fun _ => ⟨rfl, rfl, rfl⟩
  users := ⟨_, _, _, rfl⟩
  records := rfl
  startscript := rfl
  others := fun other different => by
    simp [Application.modifyContext, Ne.symm different]
  login := by
    cases known : app.contexts[session]? with
    | none => simp [Application.context, Application.modifyContext, known]
    | some context =>
        have entered := enters context
        simpa [Application.context, Application.modifyContext, known] using entered

/-- A user's own password and ratings are no matter. -/
theorem modifyUser (app : Application) (ref : UserRef) {change : User → User}
    (fixed : ∀ user, (change user).fixed = user.fixed) (dirty : Bool) :
    Steady (some ref) session app
      { app with users := { app.users.modifyUser ref change with dirty := dirty } } where
  rest := ⟨_, _, _, _, _, rfl⟩
  selection := ⟨_, rfl⟩
  stations := rfl
  mix := fun _ => ⟨rfl, rfl, rfl⟩
  users := by cases ref <;> exact ⟨_, _, _, rfl⟩
  records := by
    cases ref with
    | startscript => rfl
    | listed serial =>
        apply map_modifyFirst
        intro user found
        have same : user.serial = serial := by simpa using List.find?_some found
        have kept := (User.of_fixed (fixed user)).1
        simp [fixedView, kept, same, fixed]
  startscript := by
    cases ref with
    | startscript => simp [fixedView, UserDatabase.modifyUser, fixed]
    | listed serial => rfl
  others := fun _ _ => rfl
  login := .inl rfl

end Steady

/-! ## Who is logged in -/

theorem User.fixed_fixedView (who : Option UserRef) (ref : UserRef) (user : User) :
    (fixedView who ref user).fixed = user.fixed := by
  unfold fixedView
  split <;> rfl

private theorem find?_map_fixed (users : List User) (serial : Nat) :
    (users.find? fun user => user.serial = serial).map User.fixed =
      (users.map User.fixed).find? fun user => user.serial = serial := by
  rw [List.find?_map]
  rfl

/-- The record behind a pointer keeps what its user may not change. -/
theorem Steady.user? {who : Option UserRef} {session : Nat} {before after : Application}
    (steady : Steady who session before after) (ref : UserRef) :
    (after.users.user? ref).map User.fixed = (before.users.user? ref).map User.fixed := by
  cases ref with
  | startscript =>
      have same := congrArg User.fixed steady.startscript
      rw [User.fixed_fixedView, User.fixed_fixedView] at same
      exact congrArg some same
  | listed serial =>
      have same := congrArg (List.map User.fixed) steady.records
      simp only [List.map_map, Function.comp_def, User.fixed_fixedView] at same
      simp only [UserDatabase.user?, find?_map_fixed]
      rw [same]

/-- A session keeps its low privilege, and its user is the same or gone. -/
theorem Steady.lowPrivilege {who : Option UserRef} {session : Nat} {before after : Application}
    (steady : Steady who session before after) (low : LowPrivilege before session) :
    LowPrivilege after session := by
  obtain ⟨_, _, _, users⟩ := steady.users
  refine ⟨?_, ?_⟩
  · rw [users]
    exact low.visitors
  · intro user logged_in
    rcases steady.login with same | out
    · simp only [Application.user, same] at logged_in
      obtain ⟨ref, entered, found⟩ := Option.bind_eq_some_iff.mp logged_in
      have kept := steady.user? ref
      rw [found, Option.map_some] at kept
      obtain ⟨old, old_found, fixed⟩ := Option.map_eq_some_iff.mp kept.symm
      have old_user : before.user session = some old := by
        simp [Application.user, entered, old_found]
      obtain ⟨-, rank, privileges⟩ := User.of_fixed fixed
      rw [← rank, ← privileges]
      exact low.user old old_user
    · simp [Application.user, out] at logged_in

theorem Steady.actor {who : Option UserRef} {session : Nat} {before after : Application}
    (steady : Steady who session before after) :
    after.actor session = before.actor session ∨ after.actor session = none := by
  obtain ⟨_, _, _, users⟩ := steady.users
  rcases steady.login with same | out
  · left
    have rank : after.users.getEffectiveRank (after.user session) =
        before.users.getEffectiveRank (before.user session) := by
      have visitors : after.users.visitorRank = before.users.visitorRank := by rw [users]
      simp only [Application.user, same]
      cases entered : (before.context session).user with
      | none => exact visitors
      | some ref =>
          have kept := steady.user? ref
          simp only [Option.bind_some]
          cases found : before.users.user? ref with
          | none =>
              rw [found, Option.map_none, Option.map_eq_none_iff] at kept
              rw [kept]
              exact visitors
          | some old =>
              rw [found, Option.map_some] at kept
              obtain ⟨user, user_found, fixed⟩ := Option.map_eq_some_iff.mp kept
              rw [user_found]
              exact (User.of_fixed fixed).2.1
    have ranks : after.haveRank session .listener = before.haveRank session .listener := by
      unfold Application.haveRank UserDatabase.haveRank
      rw [rank]
    rw [Application.actor, Application.actor, ranks, same]
  · right
    simp [Application.actor, out]

/-! ## Recomputing the mix -/

/-- The tuner returns as many stations as it was given, and leaves all alone unless autotuning is
on. -/
theorem recomputeStations_length {context : TuningContext} {tuner after : Tuner}
    (computed : recomputeStations context tuner = .ok after) :
    after.stations.length = tuner.stations.length ∧
      (context.automaticStations = false → after = tuner) := by
  cases automatic : context.automaticStations with
  | false =>
      have same : after = tuner := by
        simpa [recomputeStations, automatic] using computed.symm
      exact ⟨by rw [same], fun _ => same⟩
  | true =>
      have stations : tuner.stations ≠ [] := by
        intro empty
        simp [recomputeStations, automatic, empty, pianoListCount] at computed
      obtain ⟨other, again, arrives⟩ := recomputeStations_agrees automatic stations
      obtain rfl := Except.ok.inj (computed.symm.trans again)
      refine ⟨?_, fun off => Bool.noConfusion off⟩
      rw [arrives.stations]
      unfold TuningContext.outcome
      split
      · split <;> simp [mixOfRound]
      · rfl

namespace Server

variable (world : World)

@[simp]
theorem tunerNotice_app (server : Server) (notice : TunerNotice) :
    (server.tunerNotice world notice).app = server.app := by
  cases notice <;> simp [tunerNotice]

@[simp]
theorem foldl_tunerNotice_app (server : Server) (notices : List TunerNotice) :
    (notices.foldl (tunerNotice world) server).app = server.app := by
  induction notices generalizing server with
  | nil => rfl
  | cons notice notices ih =>
      rw [List.foldl_cons, ih]
      exact tunerNotice_app world server notice

end Server

/-- Taking over the tuner's results changes mix flags only. -/
theorem Steady.withTuner {app : Application} {tuner : Tuner} (who : Option UserRef) (session : Nat)
    (computed : recomputeStations app.tuningContext app.tuner = .ok tuner) :
    Steady who session app (app.withTuner tuner) := by
  obtain ⟨as_many, manual⟩ := recomputeStations_length computed
  have lengths : app.stationState.stations.length ≤ tuner.stations.length := by
    rw [as_many]
    simp [Application.tuner]
  refine ⟨⟨_, _, _, _, _, rfl⟩, ⟨_, rfl⟩, ?_, fun off => ?_, ⟨_, _, _, rfl⟩, rfl, rfl,
    fun _ _ => rfl, .inl rfl⟩
  · have unmixed : ∀ cell : StationCell, ∀ flag, StationCell.unmixed
        { cell with station := { cell.station with useQuickMix := flag } } = cell.unmixed :=
      fun _ _ => rfl
    simp only [Application.withTuner, List.map_zipWith, unmixed]
    calc List.zipWith (fun cell _ => StationCell.unmixed cell) _ tuner.stations
        = (app.stationState.stations.zip tuner.stations).map fun pair => pair.1.unmixed := by
          rw [← List.map_uncurry_zip_eq_zipWith]
          rfl
      _ = ((app.stationState.stations.zip tuner.stations).map Prod.fst).map (·.unmixed) := by
          rw [List.map_map]
          rfl
      _ = app.stationState.stations.map (·.unmixed) := by rw [List.map_fst_zip lengths]
  · rw [manual off]
    simp [Application.withTuner, Application.tuner, List.zipWith_map_right]

/-- Computing the mix again steers nothing. -/
theorem Steady.recomputeStations {world : World} {server after : Server} (who : Option UserRef)
    (session : Nat) (computed : server.recomputeStations world = .ok after) :
    Steady who session server.app after.app := by
  unfold Server.recomputeStations at computed
  split at computed
  · cases computed
  · rename_i tuner result
    cases computed
    simp only [Server.foldl_tunerNotice_app, Server.withApp_app]
    exact .withTuner who session result

/-! ## What a listener can reach -/

namespace Server

variable {server : Server} {session : Nat}

@[simp]
theorem notify_app (server : Server) (selects : UserContext → Bool) (code : ResponseCode) :
    (server.notify selects code).app = server.app := rfl

@[simp]
theorem reportValue_app (server : Server) (session : Nat) (code : ResponseCode) :
    (server.reportValue session code).app = server.app := rfl

@[simp]
theorem sendPrivileges_app (server : Server) (session : Nat) :
    (server.sendPrivileges session).app = server.app := rfl

@[simp]
theorem sendStatementList_app (world : World) (server : Server) (session : Nat)
    (topic : Option Text) : (server.sendStatementList world session topic).app = server.app := rfl

@[simp]
theorem sendPlaybackStatus_app (server : Server) (there : Recipient) :
    (server.sendPlaybackStatus there).app = server.app := by
  unfold sendPlaybackStatus
  dsimp only
  split_ifs <;> rfl

@[simp]
theorem sendSongLists_app (server : Server) (session : Nat) (history : Bool) (index : Option Int) :
    (server.sendSongLists session history index).app = server.app := by
  unfold sendSongLists
  dsimp only
  split
  · rfl
  · split
    · split <;> rfl
    · split <;> rfl

@[simp]
theorem sendStationList_app (server : Server) (session : Nat) (includes : Station → Bool) :
    (server.sendStationList session includes).app = server.app := rfl

@[simp]
theorem sendSelectUsers_app (server : Server) (session : Nat) (which : UserSelection)
    (details : Bool) : (server.sendSelectUsers session which details).app = server.app := rfl

theorem sendSelectedStation_app {after : Server} {there : Recipient}
    (sent : server.sendSelectedStation there = .ok after) : after.app = server.app := by
  unfold sendSelectedStation at sent
  split at sent <;> cases sent <;> rfl

theorem queryStatus_app {after : Server} (sent : server.queryStatus session = .ok after) :
    after.app = server.app := by
  rw [sendSelectedStation_app sent]
  cases server.app.currentSong <;> simp [sendSongInfo, sendStationRating]

theorem getStationByNameOrCurrent_app {name : Option Text} {after : Server × Option StationCell}
    (found : server.getStationByNameOrCurrent session name = .ok after) :
    after.1.app = server.app := by
  unfold getStationByNameOrCurrent at found
  dsimp only at found
  split at found
  · split at found <;> cases found <;> rfl
  · split at found
    · cases found
    · split at found <;> cases found <;> rfl
    · cases found
      rfl

theorem sendStationRatings_app {after : Server} {name : Option Text}
    (sent : server.sendStationRatings session name = .ok after) : after.app = server.app := by
  unfold sendStationRatings at sent
  split at sent
  · cases sent
    rfl
  · split at sent
    · cases sent
    · rename_i found
      cases sent
      exact getStationByNameOrCurrent_app found
    · rename_i found
      cases sent
      exact getStationByNameOrCurrent_app found

end Server

section Listener

variable {world : World} {crypt : Text → Text → Text} {server after : Server} {session : Nat}

private theorem steady_setStationRating {app : Application} {users : UserDatabase} {ref : UserRef}
    {stationId : Text} {rating : StationRating} (session : Nat)
    (rated : app.users.setStationRating ref stationId rating = .ok users) :
    Steady (some ref) session app { app with users := users } := by
  unfold UserDatabase.setStationRating at rated
  split at rated
  · cases rated
  · split at rated
    · cases rated
      exact .of_eq rfl
    · rename_i preferences _
      cases rated
      exact @Steady.modifyUser session app ref
        (fun user => { user with stationPreferences := some preferences }) (fun _ => rfl) true

theorem steady_waitForEvent {event : WaitEvent} (who : Option UserRef)
    (waits : server.waitForEvent session event = .ok after) :
    Steady who session server.app after.app := by
  obtain ⟨-, -, rfl⟩ := Server.waitForEvent_eq_ok waits
  exact .modifyContext who server.app session fun _ => .inl rfl

/-- Rating a station changes the user's own ratings, and with them the mix. -/
theorem steady_rateStation {user : UserRef} {rating : StationRating} {name : Option Text}
    (rated : server.rateStation world session user rating name = .ok after) :
    Steady (some user) session server.app after.app := by
  unfold Server.rateStation at rated
  split at rated
  · cases rated
  · rename_i found
    cases rated
    exact .of_eq (Server.getStationByNameOrCurrent_app found)
  · rename_i asked station found
    have same := Server.getStationByNameOrCurrent_app found
    split at rated
    · cases rated
    · cases rated
    · rename_i users selected changed known
      rw [← same]
      refine (steady_setStationRating session changed).trans ?_
      have computed := Steady.recomputeStations (some user) session rated
      rw [Server.notify_app] at computed
      refine .trans (.of_eq ?_) computed
      rw [apply_ite Server.app]
      exact ite_self _

/-- A change of password concerns the user's own. -/
theorem steady_changePassword {user : UserRef} {old : Text}
    (changed : server.changePassword world crypt session user old = .ok after) :
    Steady (some user) session server.app after.app := by
  unfold Server.changePassword at changed
  split at changed
  · cases changed
  · split at changed
    · cases changed
    · cases changed
    · cases changed
      exact .of_eq rfl
    · rename_i users _ replaced
      cases changed
      unfold UserDatabase.changePassword at replaced
      split at replaced
      · cases replaced
      · split at replaced
        · cases replaced
        · cases replaced
          exact .of_eq rfl
        · split at replaced
          · cases replaced
            exact @Steady.modifyUser session server.app user
              (fun user => { user with password := world.encryptedPassword }) (fun _ => rfl) true
          · cases replaced

/-- What a listener without privileges can change with a command that needs no more than that
rank. -/
theorem steady_executeListener {command : Command} (low : LowPrivilege server.app session)
    (executed : server.executeListener world crypt session command = some (.ok after)) :
    Steady (server.app.context session).user session server.app after.app := by
  cases command with
  | parseFailure | parseIncomplete | parseInvalidKeyword | parseNumeric | parseRange
  | parseExtraTerms | nop | yell | getVolume | autotuneGetMode | getHistorySize
  | getAudioQuality | timeStatus | queryHistory | queryQueue | quickMixIncluded
  | quickMixExcluded | stationList =>
      simp only [Server.executeListener, Option.some.injEq, Except.ok.injEq] at executed
      subst executed
      exact .of_eq (by simp)
  | queryStatus =>
      simp only [Server.executeListener, Option.some.injEq] at executed
      exact .of_eq (Server.queryStatus_app executed)
  | stationRatings name =>
      simp only [Server.executeListener, Option.some.injEq] at executed
      split at executed
      · cases executed
        exact .of_eq rfl
      · exact .of_eq (Server.sendStationRatings_app executed)
  | stationRate rating name =>
      simp only [Server.executeListener, Option.some.injEq] at executed
      split at executed
      · cases executed
        exact .of_eq rfl
      · rename_i entered
        rw [entered]
        exact steady_rateStation executed
  | setMyPassword old new =>
      simp only [Server.executeListener, Option.some.injEq] at executed
      split at executed
      · cases executed
        exact .of_eq rfl
      · rename_i entered
        rw [entered]
        exact steady_changePassword executed
  | waitForEndOfSong =>
      simp only [Server.executeListener, Option.some.injEq] at executed
      split at executed
      · exact steady_waitForEvent _ executed
      · cases executed
        exact .of_eq rfl
  | waitForNextSong =>
      simp only [Server.executeListener, Option.some.injEq] at executed
      exact steady_waitForEvent _ executed
  | usersOnline | userListPandora | autotuneUsersList =>
      simp only [Server.executeListener, Option.some.injEq, Except.ok.injEq] at executed
      subst executed
      split <;> exact .of_eq (by simp)
  | pandoraUser | pandoraUserSpecify | pandoraExisting | waitForAuthentication =>
      simp only [Server.executeListener, low.service, Bool.false_eq_true, if_false,
        Option.some.injEq, Except.ok.injEq] at executed
      subst executed
      exact .of_eq (by simp)
  | autotuneUsers | autotuneAddRemove =>
      simp only [Server.executeListener, low.tuner, Bool.false_eq_true, if_false,
        Option.some.injEq, Except.ok.injEq] at executed
      subst executed
      exact .of_eq (by simp)
  | _ => cases executed

/-- The user and the password given in a command line, if any, are refused. -/
def LoginFails (crypt : Text → Text → Text) (app : Application) : World × CommandLine → Prop
  | (_, .plain (.authenticate name password)) | (_, .asUser name password _ _) =>
      ∀ user, app.users.authenticateUser crypt name password ≠ .ok (some user)
  | _ => True

/-- The commands that need no authorisation cannot do more for those who fail to log in. -/
theorem steady_executeUnprivileged {command : Command} (who : Option UserRef)
    (fails : LoginFails crypt server.app (world, .plain command))
    (executed : server.executeUnprivileged world crypt session command = some (.ok after)) :
    Steady who session server.app after.app := by
  cases command with
  | help topic =>
      simp only [Server.executeUnprivileged, Option.some.injEq, Except.ok.injEq] at executed
      subst executed
      exact .of_eq (by simp)
  | getUserRank =>
      simp only [Server.executeUnprivileged, Option.some.injEq, Except.ok.injEq] at executed
      subst executed
      exact .of_eq (by simp)
  | quit =>
      simp only [Server.executeUnprivileged, Option.some.injEq, Except.ok.injEq] at executed
      subst executed
      exact .modifyContext who server.app session fun _ => .inl rfl
  | authenticate name password =>
      simp only [Server.executeUnprivileged, Option.some.injEq] at executed
      unfold Server.authenticate at executed
      split at executed
      · cases executed
      · cases executed
        exact .modifyContext who server.app session fun _ => .inr rfl
      · rename_i user entered
        exact absurd entered (fails user)
  | _ => cases executed

/-- Whatever a session of low privilege executes, it steers nothing. -/
theorem steady_executePlain {command : Command} (low : LowPrivilege server.app session)
    (fails : LoginFails crypt server.app (world, .plain command))
    (executed : server.executePlain world crypt session command = .ok after) :
    Steady (server.app.actor session) session server.app after.app := by
  unfold Server.executePlain at executed
  split at executed
  · rename_i result unprivileged
    rw [executed] at unprivileged
    exact steady_executeUnprivileged _ fails unprivileged
  · split at executed
    · cases executed
      exact .of_eq rfl
    · rename_i listener
      have actor : server.app.actor session = (server.app.context session).user := by
        rw [Application.actor, if_pos (by simpa using listener)]
      split at executed
      · rw [if_neg (by simp [low.manager])] at executed
        cases executed
        exact .of_eq rfl
      · split at executed
        · rename_i result reached
          rw [executed] at reached
          rw [actor]
          exact steady_executeListener low reached
        · rw [if_pos (by simp [low.haveRank (show _ < UserRank.standard.level by decide)])]
            at executed
          cases executed
          exact .of_eq rfl

/-- Command lines on behalf of others get nowhere either. -/
theorem steady_execute {line : CommandLine} (low : LowPrivilege server.app session)
    (fails : LoginFails crypt server.app (world, line))
    (executed : server.execute world crypt session line = .ok after) :
    Steady (server.app.actor session) session server.app after.app := by
  cases line with
  | plain command => exact steady_executePlain low fails executed
  | asUser name password quits line =>
      unfold Server.execute at executed
      dsimp only at executed
      split at executed
      · cases executed
      · cases executed
        have closed := @Steady.modifyContext (server.app.actor session) server.app session
          (fun context => context.closeConnection) fun _ => .inl rfl
        exact closed.trans (.modifyContext _ _ session fun _ => .inr rfl)
      · rename_i user entered
        exact absurd entered (fails user)

end Listener

/-! ## Sequences of command lines -/

/-- Execute one line of a session, with the answers of the world to it. -/
def Application.enter (crypt : Text → Text → Text) (session : Nat) (app : Application)
    (entry : World × CommandLine) : Except Fault Application :=
  match Server.execute entry.1 crypt ⟨app, []⟩ session entry.2 with
  | .error fault => .error fault
  | .ok server => .ok server.app

/-- A session of low privilege whose attempts to log in fail steers nothing, whatever lines it
sends. -/
theorem steady_of_run {crypt : Text → Text → Text} {session : Nat} {before after : Application}
    {lines : List (World × CommandLine)} (low : LowPrivilege before session)
    (fails : FallibleRun.Guarded (Application.enter crypt session) (LoginFails crypt) before lines)
    (entered : FallibleRun.run (Application.enter crypt session) before lines = .ok after) :
    Steady (before.actor session) session before after := by
  have invariant := fails.invariant
    (fun app => LowPrivilege app session ∧ Steady (before.actor session) session before app)
    (fun app entry next holds failing moved => by
      obtain ⟨low, steady⟩ := holds
      obtain ⟨world, line⟩ := entry
      unfold Application.enter at moved
      split at moved
      · cases moved
      rename_i server executed
      cases moved
      have step := steady_execute low failing executed
      refine ⟨step.lowPrivilege low, steady.trans ?_⟩
      rcases steady.actor with same | visitor
      · rw [← same]
        exact step
      · rw [visitor] at step
        exact step.of_visitor _)
    ⟨low, .refl _ session before⟩ entered
  exact invariant.2

/-- Autotuning for a listener who is connected. -/
def sampleListening : Application :=
  { sampleApplication .listener with automaticStations := true }

/-- The listener rates a station, fails to log in as another user, and asks for a song to be
skipped. -/
def sampleLines : List (World × CommandLine) :=
  [(sampleWorld [], .plain (.stationRate .bad (some (ascii "Rock")))),
    (sampleWorld [], .asUser (ascii "bob") (ascii "x") false (.plain .nextSong)),
    (sampleWorld [], .plain .nextSong)]

theorem sampleLines_steady : ∃ after,
    FallibleRun.run (Application.enter (fun _ salt => salt) 0) sampleListening sampleLines =
      .ok after ∧ Steady (sampleListening.actor 0) 0 sampleListening after := by
  have low : LowPrivilege sampleListening 0 := by
    refine ⟨by decide, fun user logged_in => ?_⟩
    cases logged_in
    exact ⟨by decide, rfl, rfl, rfl⟩
  have fails : FallibleRun.Guarded (Application.enter (fun _ salt => salt) 0)
      (LoginFails fun _ salt => salt) sampleListening sampleLines := by
    refine ⟨trivial, fun next moved => ⟨fun user found => ?_, fun _ _ =>
      ⟨trivial, fun _ _ => trivial⟩⟩⟩
    obtain rfl := Except.ok.inj moved
    have nobody : none = some user := Except.ok.inj found
    cases nobody
  obtain ⟨after, entered⟩ : ∃ after, FallibleRun.run (Application.enter (fun _ salt => salt) 0)
      sampleListening sampleLines = .ok after := ⟨_, rfl⟩
  exact ⟨after, entered, steady_of_run low fails entered⟩

end Pianod
