import Pianod.Server.TunerPromise

/-!
# When the autotuned selection is stale

The tuner's results are a cache.  They depend on who is connected, who is logged in, who is marked
present, who has influence, and on the ratings of these users.  Many commands and events change one
of these; some of them recompute the stations afterwards, others do not.
-/

namespace Pianod

open Foundation

/-- A connection of the service, with the user logged in on it. -/
structure Session where
  isOpen : Bool
  user : Option UserRef

/-- The server with autotuning on: what the tuner reads, and its results. -/
structure TuningServer where
  users : UserDatabase
  /-- The connections of the service. -/
  sessions : List Session
  automaticMode : UInt32
  tuner : Tuner

/-- The commands that bear on autotuning. -/
inductive TuningCommand where
  | quit
  | authenticate (name password : Text)
  | asUser (name password : Text) (command : TuningCommand)
  /-- The station is the one that the command names or that is playing, if there is one. -/
  | rateStation (stationId : Option Text) (rating : Text)
  | userGrant (privilege : Text) (names : List Text)
  | userRevoke (privilege : Text) (names : List Text)
  | userDelete (name : Text)
  | userKick (name : Text)
  | userKickVisitors
  | autotuneUsers (names : List Text)
  | autotuneAddRemove (consider : Bool) (names : List Text)
  | autotuneSetMode (mode : Text)

/-- What happens between two waits for an event. -/
inductive TuningEvent where
  | connect
  /-- Closure is initiated because the client is gone. -/
  | hangUp (session : Nat)
  /-- The closing of a connection is reported; the session stays behind, closed and without a
  user. -/
  | closed (session : Nat)
  | input (session : Nat) (command : TuningCommand)

/-! ## What the results depend on -/

/-- The recorded ratings of the users whose opinions count. -/
def TuningContext.opinions (context : TuningContext) : List (Option StationPreferences) :=
  context.electorate.map User.stationPreferences

/-- The same opinions count, and somebody listens in both cases or in neither. -/
def SameAudience (before after : TuningContext) : Prop :=
  after.anyoneListening = before.anyoneListening ∧
    ∀ opinion, opinion ∈ after.opinions ↔ opinion ∈ before.opinions

/-- The same stations with the same mix flags, and the same results. -/
structure Tuner.Agrees (first second : Tuner) : Prop where
  stations : first.stations = second.stations
  hadResults : first.computationHadResults = second.computationHadResults
  hasListeners : first.computationHasListeners = second.computationHasListeners

private theorem rates_congr {first second : User}
    (same : first.stationPreferences = second.stationPreferences) (station : Station)
    (rating : StationRating) : first.Rates station rating ↔ second.Rates station rating := by
  rw [User.Rates, User.Rates, same]

/-- What some user of an electorate thinks, some user of another with the same opinions thinks. -/
theorem exists_rates_of_opinions {first second : List User}
    (same : ∀ opinion, opinion ∈ first.map User.stationPreferences →
      opinion ∈ second.map User.stationPreferences)
    {station : Station} {thinks : Prop → Prop} {rating : StationRating}
    (found : ∃ user ∈ first, thinks (user.Rates station rating)) :
    ∃ user ∈ second, thinks (user.Rates station rating) := by
  obtain ⟨user, member, holds⟩ := found
  obtain ⟨other, other_member, preferences⟩ :=
    List.mem_map.mp (same user.stationPreferences (List.mem_map_of_mem member))
  refine ⟨other, other_member, ?_⟩
  rw [propext (rates_congr preferences station rating)]
  exact holds

/-- Every standard depends on the opinions alone. -/
theorem qualifies_of_opinions {first second : List User}
    (same : ∀ opinion, opinion ∈ first.map User.stationPreferences ↔
      opinion ∈ second.map User.stationPreferences) (algorithm : Nat) (station : Station) :
    Qualifies first algorithm station ↔ Qualifies second algorithm station := by
  have some_rate (thinks : Prop → Prop) (rating : StationRating) :
      (∃ user ∈ first, thinks (user.Rates station rating)) ↔
        ∃ user ∈ second, thinks (user.Rates station rating) :=
    ⟨exists_rates_of_opinions fun opinion => (same opinion).mp,
      exists_rates_of_opinions fun opinion => (same opinion).mpr⟩
  have liked : LikedByAll first station ↔ LikedByAll second station := by
    have dissent := not_congr (some_rate Not .good)
    simpa [LikedByAll] using dissent
  have tolerated : Tolerable first station ↔ Tolerable second station := by
    have dissent := not_congr (some_rate id .bad)
    simpa [Tolerable] using dissent
  unfold Qualifies
  split
  · exact liked
  · exact and_congr (some_rate id .good) tolerated
  · exact tolerated

/-- The first round whose standard some station meets. -/
def chosenRound (electorate : List User) (stations : List Station) : Option Nat :=
  [1, 2, 3].find? fun round => stations.any fun station => Qualifies electorate round station

/-- What a computation arrives at. -/
def TuningContext.outcome (context : TuningContext) (tuner : Tuner) : Tuner :=
  if context.anyoneListening then
    match chosenRound context.electorate tuner.stations with
    | none => { tuner with computationHadResults := false, computationHasListeners := true }
    | some round =>
        { tuner with
          stations := mixOfRound context.electorate round tuner.stations
          computationHadResults := true
          computationHasListeners := true }
  else { tuner with computationHadResults := true, computationHasListeners := false }

/-- The three rounds arrive at the first whose standard is met. -/
theorem selectStations_eq_chosenRound (electorate : List User) (stations : List Station) :
    match chosenRound electorate stations with
    | none => (selectStations [1, 2, 3] false 1 (stations.map fun station =>
        (StationSelector.initial station).collect electorate)).2.1 = false
    | some round => selectStations [1, 2, 3] false 1 (stations.map fun station =>
        (StationSelector.initial station).collect electorate) =
          (round, true, stations.map fun station =>
            { (StationSelector.initial station).collect electorate with
              included := decide (Qualifies electorate round station) }) := by
  have includes (round : Nat) (station : Station) :
      ((StationSelector.initial station).collect electorate).includes round =
        decide (Qualifies electorate round station) := by
    rw [Bool.eq_iff_iff, includes_iff, decide_eq_true_iff]
  rcases selectStations_spec [1, 2, 3] 1 (stations.map fun station =>
      (StationSelector.initial station).collect electorate) with
    ⟨untouched, result⟩ | ⟨earlier, round, later, split, tried, found, result⟩
  · have none_chosen : chosenRound electorate stations = none := by
      rw [chosenRound, List.find?_eq_none]
      intro round member
      simpa [includes] using untouched round member
    rw [none_chosen]
    exact result
  · have chosen : chosenRound electorate stations = some round := by
      rw [chosenRound, List.find?_eq_some_iff_append]
      refine ⟨by simpa [includes] using found, earlier, later, split, fun other member => ?_⟩
      simpa [includes] using tried other member
    rw [chosen, result]
    simp [includes, Function.comp_def]

/-- A computation on a non-empty list arrives at the outcome. -/
theorem recomputeStations_agrees {context : TuningContext} {tuner : Tuner}
    (automatic : context.automaticStations = true) (stations : tuner.stations ≠ []) :
    ∃ after, recomputeStations context tuner = .ok after ∧
      after.Agrees (context.outcome tuner) := by
  refine ⟨_, recomputeStations_eq automatic stations, ?_⟩
  cases listening : context.anyoneListening with
  | false =>
      constructor <;> simp [TuningContext.outcome, listening, publishStations, selectStations]
  | true =>
      have rounds := selectStations_eq_chosenRound context.electorate tuner.stations
      rw [Bool.not_true]
      cases chosen : chosenRound context.electorate tuner.stations with
      | none =>
          simp only [chosen] at rounds
          simp only [rounds]
          constructor <;> simp [TuningContext.outcome, listening, publishStations, chosen]
      | some round =>
          simp only [chosen] at rounds
          simp only [rounds]
          constructor <;>
            simp [TuningContext.outcome, listening, publishStations, chosen, mixOfRound,
              StationSelector.initial]

theorem qualifies_mix (electorate : List User) (algorithm : Nat) (station : Station) (mix : Bool) :
    Qualifies electorate algorithm { station with useQuickMix := mix } ↔
      Qualifies electorate algorithm station := by
  unfold Qualifies
  split <;> exact Iff.rfl

private theorem chosenRound_mixOfRound (electorate : List User) (round : Nat)
    (stations : List Station) : chosenRound electorate (mixOfRound electorate round stations) =
      chosenRound electorate stations := by
  simp only [chosenRound, mixOfRound, List.any_map, Function.comp_def, qualifies_mix]

private theorem mixOfRound_mixOfRound (electorate : List User) (round : Nat)
    (stations : List Station) : mixOfRound electorate round (mixOfRound electorate round stations) =
      mixOfRound electorate round stations := by
  simp only [mixOfRound, List.map_map, Function.comp_def, qualifies_mix]

private theorem TuningContext.outcome_outcome (context : TuningContext) (tuner : Tuner) :
    context.outcome (context.outcome tuner) = context.outcome tuner := by
  cases listening : context.anyoneListening with
  | false => simp [outcome, listening]
  | true =>
      cases chosen : chosenRound context.electorate tuner.stations with
      | none => simp [outcome, listening, chosen]
      | some round =>
          have again : chosenRound context.electorate
              (mixOfRound context.electorate round tuner.stations) = some round := by
            rw [chosenRound_mixOfRound, chosen]
          simp [outcome, listening, chosen, again, mixOfRound_mixOfRound]

private theorem SameAudience.outcome_eq {before after : TuningContext}
    (same : SameAudience before after)
    (tuner : Tuner) : after.outcome tuner = before.outcome tuner := by
  obtain ⟨listening, opinions⟩ := same
  have qualifies (round : Nat) (station : Station) :
      Qualifies after.electorate round station ↔ Qualifies before.electorate round station :=
    qualifies_of_opinions opinions round station
  have chosen : chosenRound after.electorate tuner.stations =
      chosenRound before.electorate tuner.stations := by
    simp only [chosenRound, qualifies]
  simp only [TuningContext.outcome, listening, chosen, mixOfRound, qualifies]

/-- The outcome depends on the stations alone. -/
theorem Tuner.Agrees.outcome {first second : Tuner} (agree : first.Agrees second)
    (context : TuningContext) : (context.outcome first).Agrees (context.outcome second) := by
  obtain ⟨stations, hadResults, hasListeners⟩ := agree
  unfold TuningContext.outcome
  rw [stations]
  split
  · split <;> constructor <;> simp
  · constructor <;> simp

theorem Tuner.Agrees.symm {first second : Tuner} (agree : first.Agrees second) :
    second.Agrees first :=
  ⟨agree.stations.symm, agree.hadResults.symm, agree.hasListeners.symm⟩

theorem Tuner.Agrees.trans {first second third : Tuner} (one : first.Agrees second)
    (two : second.Agrees third) : first.Agrees third :=
  ⟨one.stations.trans two.stations, one.hadResults.trans two.hadResults,
    one.hasListeners.trans two.hasListeners⟩

private theorem TuningContext.outcome_stations_eq_nil {context : TuningContext} {tuner : Tuner} :
    (context.outcome tuner).stations = [] ↔ tuner.stations = [] := by
  unfold outcome
  split
  · split <;> simp [mixOfRound]
  · rfl

namespace TuningServer

/-- What the tuner reads. -/
def context (server : TuningServer) : TuningContext where
  automaticStations := true
  automaticMode := server.automaticMode
  listeners :=
    server.sessions.map fun session => ⟨session.isOpen, session.user.bind server.users.user?⟩
  users := server.users

/-- Change one session. -/
def modifySession (server : TuningServer) (session : Nat) (change : Session → Session) :
    TuningServer :=
  { server with sessions := server.sessions.modify session change }

/-- Initiate the closure of a session's connection. -/
def closeConnection (server : TuningServer) (session : Nat) : TuningServer :=
  server.modifySession session fun session => { session with isOpen := false }

/-- Log a user in on a session, or out. -/
def setUser (server : TuningServer) (session : Nat) (user : Option UserRef) : TuningServer :=
  server.modifySession session fun session => { session with user := user }

/-- Log off the sessions of a user, or all visitors. -/
def userLogoff (server : TuningServer) (user : Option UserRef) : TuningServer :=
  { server with sessions := server.sessions.map fun session =>
      if session.isOpen = true ∧ session.user = user then { session with isOpen := false }
      else session }

/-- Whether a session belongs to a user. -/
def isUserOnline (server : TuningServer) (serial : Nat) : Bool :=
  server.sessions.any fun session => session.user = some (.listed serial)

/-- Change the mix stations according to the considered users' ratings. -/
def recompute (server : TuningServer) : Except Fault TuningServer :=
  if server.sessions.any fun session =>
      session.isOpen && session.user.any fun ref => (server.users.user? ref).isNone then
    .error .useAfterFree
  else (recomputeStations server.context server.tuner).map fun tuner =>
    { server with tuner := tuner }

/-- Take over changed user data. -/
def withUsers (server : TuningServer) (changed : Except Fault UserDatabase) :
    Except Fault TuningServer :=
  changed.map fun users => { server with users := users }

/-- Take over changed user data and recompute. -/
def recomputeWith (server : TuningServer) (changed : Except Fault UserDatabase) :
    Except Fault TuningServer :=
  match server.withUsers changed with
  | .error fault => .error fault
  | .ok changed => changed.recompute

/-- Grant or revoke a privilege; only influence bears on the tuner. -/
def setPrivileges (server : TuningServer) (privilege : Text) (setting : Bool) (names : List Text) :
    Except Fault TuningServer :=
  if server.users.validUserList names then
    match getPrivilegeByName privilege with
    | none => .error (.assertion "priv")
    | some entry =>
        let changed := server.users.setPrivileges entry.index setting names
        if entry.index = .influence then server.recomputeWith changed else server.withUsers changed
  else .ok server

/-- The mode with a name. -/
def modeOfName (mode : Text) : Except Fault UInt32 :=
  if mode.strcasecmp (ascii "login") = .eq then .ok tuneOnLogins
  else if mode.strcasecmp (ascii "flag") = .eq then .ok tuneOnAttribute
  else if mode.strcasecmp (ascii "all") = .eq then .ok tuneOnAll
  else .error (.assertion "strcasecmp (event->argv [2], \"all\") == 0")

/-- The users of the open connections. -/
def openUsers (server : TuningServer) : List (Option UserRef) :=
  (server.sessions.filter (·.isOpen)).map (·.user)

/-- The results are what a computation would arrive at now. -/
def Fresh (server : TuningServer) : Prop :=
  ∃ after, recomputeStations server.context server.tuner = .ok after ∧ after.Agrees server.tuner

/-- There is no open connection with this number. -/
def ClosedAt (server : TuningServer) (session : Nat) : Prop :=
  ∀ found, server.sessions[session]? = some found → found.isOpen = false

variable (crypt : Text → Text → Text)

/-- The effect of a command given on a session. -/
def execute (server : TuningServer) (session : Nat) : TuningCommand → Except Fault TuningServer
  | .quit => .ok (server.closeConnection session)
  | .authenticate name password =>
      match server.users.authenticateUser crypt name password with
      | .error fault => .error fault
      | .ok none => .ok (server.setUser session none)
      | .ok (some user) => (server.setUser session (some (.listed user.serial))).recompute
  | .asUser name password command =>
      let closing := server.closeConnection session
      match closing.users.authenticateUser crypt name password with
      | .error fault => .error fault
      | .ok none => .ok (closing.setUser session none)
      | .ok (some user) =>
          let entered := closing.setUser session (some (.listed user.serial))
          match command with
          -- The connection would be closed twice.
          | .quit => .ok (entered.setUser session none)
          | command =>
              (execute entered session command).map fun after => after.setUser session none
  | .rateStation stationId rating =>
      match (server.sessions[session]?).bind Session.user with
      | none => .ok server
      | some user =>
          match getStationRatingByName rating, stationId with
          | none, _ => .error (.assertion "0")
          | some _, none => .ok server
          | some rating, some id =>
              server.recomputeWith (server.users.setStationRating user id rating)
  | .userGrant privilege names => server.setPrivileges privilege true names
  | .userRevoke privilege names => server.setPrivileges privilege false names
  | .userDelete name =>
      match server.users.findUser name with
      | none => .ok server
      | some user =>
          if server.isUserOnline user.serial then .ok server
          else server.withUsers (server.users.deleteUser user.serial)
  | .userKick name =>
      match server.users.findUser name with
      | none => .ok server
      | some user =>
          .ok
            (if server.isUserOnline user.serial then server.userLogoff (some (.listed user.serial))
            else server)
  | .userKickVisitors => .ok (server.userLogoff none)
  | .autotuneUsers names =>
      if server.users.validUserList names then
        server.recomputeWith
          ((server.users.clearPrivilege .present).setPrivileges .present true names)
      else .ok server
  | .autotuneAddRemove consider names =>
      if server.users.validUserList names then
        server.recomputeWith (server.users.setPrivileges .present consider names)
      else .ok server
  | .autotuneSetMode mode =>
      match modeOfName mode with
      | .error fault => .error fault
      | .ok mode => { server with automaticMode := mode }.recompute

/-- What an event does. -/
def step (server : TuningServer) : TuningEvent → Except Fault TuningServer
  | .connect => .ok { server with sessions := server.sessions ++ [⟨true, none⟩] }
  | .hangUp session => .ok (server.closeConnection session)
  | .closed session => ((server.closeConnection session).setUser session none).recompute
  | .input session command => server.execute crypt session command

/-- The command ends in a computation. -/
def Recomputes (server : TuningServer) (session : Nat) : TuningCommand → Prop
  | .quit => False
  | .authenticate name password =>
      ∃ user, server.users.authenticateUser crypt name password = .ok (some user)
  | .asUser name password command =>
      ∃ user, server.users.authenticateUser crypt name password = .ok (some user) ∧
        Recomputes ((server.closeConnection session).setUser session (some (.listed user.serial)))
          session command
  | .rateStation stationId _ =>
      (server.sessions[session]?).bind Session.user ≠ none ∧ stationId ≠ none
  | .userGrant privilege names | .userRevoke privilege names =>
      server.users.validUserList names = true ∧
        (getPrivilegeByName privilege).map (·.index) = some .influence
  | .userDelete _ | .userKick _ | .userKickVisitors => False
  | .autotuneUsers names | .autotuneAddRemove _ names => server.users.validUserList names = true
  | .autotuneSetMode _ => True

/-- What a command changes without a computation afterwards, the audience does not notice: the
connections it closes, the user it logs off, the user it deletes.  A privilege is granted by one of
the three names that the grammar admits. -/
def Heeded (server : TuningServer) (session : Nat) : TuningCommand → Prop
  | .quit => SameAudience server.context (server.closeConnection session).context
  | .authenticate name password =>
      server.users.authenticateUser crypt name password = .ok none →
        SameAudience server.context (server.setUser session none).context
  | .asUser name password command =>
      let closing := server.closeConnection session
      match server.users.authenticateUser crypt name password with
      | .error _ => True
      | .ok none => SameAudience server.context closing.context
      | .ok (some user) =>
          let entered := closing.setUser session (some (.listed user.serial))
          entered.Recomputes crypt session command ∨
            SameAudience server.context closing.context ∧ Heeded entered session command
  | .userGrant privilege _ | .userRevoke privilege _ =>
      (getPrivilegeByName privilege).map (·.index) ≠ some .present
  | .userDelete name => ∀ user users, server.users.findUser name = some user →
      server.isUserOnline user.serial = false → server.users.deleteUser user.serial = .ok users →
        let remaining : TuningServer := { server with users := users }
        SameAudience server.context remaining.context
  | .userKick name => ∀ user, server.users.findUser name = some user →
      SameAudience server.context (server.userLogoff (some (.listed user.serial))).context
  | .userKickVisitors => SameAudience server.context (server.userLogoff none).context
  | .rateStation .. | .autotuneUsers _ | .autotuneAddRemove .. | .autotuneSetMode _ => True

/-- The audience does not notice the connections that an event adds or closes, nor what a command
changes without a computation afterwards. -/
def HeededEvent (server : TuningServer) : TuningEvent → Prop
  | .connect =>
      let connected : TuningServer := { server with sessions := server.sessions ++ [⟨true, none⟩] }
      SameAudience server.context connected.context
  | .hangUp session => SameAudience server.context (server.closeConnection session).context
  | .closed _ => True
  | .input session command => server.Heeded crypt session command

/-! ## Fresh and stale results -/

theorem fresh_iff {server : TuningServer} :
    server.Fresh ↔ server.tuner.stations ≠ [] ∧
      (server.context.outcome server.tuner).Agrees server.tuner := by
  constructor
  · rintro ⟨after, computed, agree⟩
    have stations : server.tuner.stations ≠ [] := by
      intro empty
      simp [recomputeStations, context, empty, pianoListCount] at computed
    obtain ⟨other, result, arrives⟩ :=
      @recomputeStations_agrees server.context server.tuner rfl stations
    obtain rfl := Except.ok.inj (computed.symm.trans result)
    exact ⟨stations, arrives.symm.trans agree⟩
  · rintro ⟨stations, agree⟩
    obtain ⟨after, computed, arrives⟩ :=
      @recomputeStations_agrees server.context server.tuner rfl stations
    exact ⟨after, computed, arrives.trans agree⟩

/-- Recomputing changes only the results, and makes them fresh. -/
theorem fresh_of_recompute {server after : TuningServer} (computed : server.recompute = .ok after) :
    after.Fresh ∧ after = { server with tuner := after.tuner } := by
  unfold recompute at computed
  split at computed
  · cases computed
  · cases result : recomputeStations server.context server.tuner with
    | error fault => simp [result, Except.map] at computed
    | ok tuner =>
        simp only [result, Except.map, Except.ok.injEq] at computed
        subst computed
        refine ⟨fresh_iff.mpr ?_, rfl⟩
        have stations : server.tuner.stations ≠ [] := by
          intro empty
          simp [recomputeStations, context, empty, pianoListCount] at result
        obtain ⟨other, again, arrives⟩ :=
          @recomputeStations_agrees server.context server.tuner rfl stations
        obtain rfl := Except.ok.inj (result.symm.trans again)
        have settled := arrives.outcome server.context
        rw [TuningContext.outcome_outcome] at settled
        refine ⟨?_, settled.trans arrives.symm⟩
        rw [arrives.stations, ne_eq, TuningContext.outcome_stations_eq_nil]
        exact stations

/-- Fresh results stay fresh while the audience is the same. -/
theorem Fresh.of_sameAudience {before after : TuningServer} (fresh : before.Fresh)
    (results : after.tuner = before.tuner) (same : SameAudience before.context after.context) :
    after.Fresh := by
  rw [fresh_iff] at fresh ⊢
  rw [results, same.outcome_eq]
  exact fresh

/-! ## Changes that the audience does not notice -/

theorem considered_context (server : TuningServer) : server.context.considered =
    (if server.automaticMode &&& tuneOnLogins ≠ 0 then
      server.openUsers.filterMap fun user => user.bind server.users.user? else []) ++
    (if server.automaticMode &&& tuneOnAttribute ≠ 0 then
      server.users.userList.filter fun user => server.users.havePrivilege (some user) .present
    else []) := by
  have listeners : (server.context.listeners.filter (·.isOpen)).filterMap (·.user) =
      server.openUsers.filterMap fun user => user.bind server.users.user? := by
    simp [context, openUsers, List.filter_map, List.filterMap_map, Function.comp_def]
  rw [TuningContext.considered, listeners]
  rfl

theorem anyoneListening_context (server : TuningServer) : server.context.anyoneListening =
    ((server.automaticMode &&& tuneOnLogins ≠ 0 && !server.openUsers.isEmpty) ||
    (server.automaticMode &&& tuneOnAttribute ≠ 0 &&
      server.users.userList.any fun user => server.users.havePrivilege (some user) .present)) := by
  have listeners : server.context.listeners.any (·.isOpen) = !server.openUsers.isEmpty := by
    rw [Bool.eq_iff_iff]
    simp [context, openUsers, List.filter_eq_nil_iff]
  rw [TuningContext.anyoneListening, listeners]
  rfl

private theorem sameAudience_of_openUsers {before after : TuningServer}
    (sessions : after.openUsers = before.openUsers) (users : after.users = before.users)
    (mode : after.automaticMode = before.automaticMode) :
    SameAudience before.context after.context := by
  have considered : after.context.considered = before.context.considered := by
    rw [considered_context, considered_context, sessions, users, mode]
  have database : after.context.users = before.context.users := users
  constructor
  · rw [anyoneListening_context, anyoneListening_context, sessions, users, mode]
  · intro opinion
    rw [TuningContext.opinions, TuningContext.opinions, TuningContext.electorate,
      TuningContext.electorate, considered, database]

/-- What the tuner reads of a user record. -/
def voice (user : User) : Nat × Option StationPreferences × Bool × Bool :=
  (user.serial, user.stationPreferences, user.privileges .influence, user.privileges .present)

private theorem havePrivilege_influence (users : UserDatabase) (user : User) :
    users.havePrivilege (some user) .influence = user.privileges .influence := by
  simp [UserDatabase.havePrivilege]

theorem havePrivilege_present (users : UserDatabase) (user : User) :
    users.havePrivilege (some user) .present = user.privileges .present := by
  simp [UserDatabase.havePrivilege]

theorem user?_voice (users : UserDatabase) (ref : UserRef) :
    (users.user? ref).map voice =
      match ref with
      | .startscript => some (voice users.startscript)
      | .listed serial => (users.userList.map voice).find? fun entry => entry.1 = serial := by
  cases ref with
  | startscript => rfl
  | listed serial =>
      simp only [UserDatabase.user?, List.find?_map]
      rfl

theorem opinions_eq (server : TuningServer) : server.context.opinions =
    ((server.context.considered.map voice).filter (·.2.2.1)).map (·.2.1) := by
  simp [TuningContext.opinions, TuningContext.electorate, context, havePrivilege_influence,
    List.filter_map, Function.comp_def, voice]

private theorem considered_voices (server : TuningServer) : server.context.considered.map voice =
    (if server.automaticMode &&& tuneOnLogins ≠ 0 then
      server.openUsers.filterMap fun user => user.bind fun ref =>
        (server.users.user? ref).map voice else []) ++
    (if server.automaticMode &&& tuneOnAttribute ≠ 0 then
      (server.users.userList.map voice).filter (·.2.2.2) else []) := by
  rw [considered_context, List.map_append]
  congr 1
  · split
    · simp only [List.map_filterMap, Option.map_bind, Function.comp_def]
    · rfl
  · split
    · simp [havePrivilege_present, List.filter_map, Function.comp_def, voice]
    · rfl

/-- Other parts of the user records make no difference. -/
theorem sameAudience_of_voices {before after : TuningServer}
    (sessions : after.openUsers = before.openUsers)
    (mode : after.automaticMode = before.automaticMode)
    (startscript : voice after.users.startscript = voice before.users.startscript)
    (voices : after.users.userList.map voice = before.users.userList.map voice) :
    SameAudience before.context after.context := by
  have records (ref : UserRef) :
      (after.users.user? ref).map voice = (before.users.user? ref).map voice := by
    rw [user?_voice, user?_voice, startscript, voices]
  have considered : after.context.considered.map voice = before.context.considered.map voice := by
    simp only [considered_voices, sessions, mode, voices, records]
  have present (server : TuningServer) :
      (server.users.userList.any fun user => server.users.havePrivilege (some user) .present) =
        (server.users.userList.map voice).any (·.2.2.2) := by
    simp [havePrivilege_present, List.any_map, Function.comp_def, voice]
  constructor
  · rw [anyoneListening_context, anyoneListening_context, present, present, sessions, mode, voices]
  · intro opinion
    rw [opinions_eq, opinions_eq, considered]

private theorem setPrivilege_voices {users changed : UserDatabase} {ref : UserRef}
    {privilege : Privilege} {setting : Bool}
    (unheard : privilege ≠ .influence ∧ privilege ≠ .present)
    (set : users.setPrivilege ref privilege setting = .ok changed) :
    voice changed.startscript = voice users.startscript ∧
      changed.userList.map voice = users.userList.map voice := by
  have same (user : User) : voice
      { user with privileges := Function.update user.privileges privilege setting } =
        voice user := by
    simp [voice, Function.update_of_ne unheard.1.symm, Function.update_of_ne unheard.2.symm]
  unfold UserDatabase.setPrivilege at set
  split at set
  · cases set
  · cases set
  · cases set
    cases ref with
    | startscript => exact ⟨same _, rfl⟩
    | listed serial => exact ⟨rfl, map_modifyFirst fun user _ => same user⟩

private theorem setPrivileges_voices {users changed : UserDatabase} {privilege : Privilege}
    {setting : Bool} {names : List Text} (unheard : privilege ≠ .influence ∧ privilege ≠ .present)
    (set : users.setPrivileges privilege setting names = .ok changed) :
    voice changed.startscript = voice users.startscript ∧
      changed.userList.map voice = users.userList.map voice := by
  induction names generalizing users with
  | nil =>
      cases set
      exact ⟨rfl, rfl⟩
  | cons name names ih =>
      unfold UserDatabase.setPrivileges at set
      split at set
      · cases set
      · split at set
        · cases set
        · rename_i first
          obtain ⟨script, voices⟩ := setPrivilege_voices unheard first
          obtain ⟨script', voices'⟩ := ih set
          exact ⟨script'.trans script, voices'.trans voices⟩

/-! ## Closed connections -/

private theorem filter_modify_of_closed {sessions : List Session} {index : Nat}
    {change : Session → Session} (same : ∀ session, (change session).isOpen = session.isOpen)
    (closed : ∀ found, sessions[index]? = some found → found.isOpen = false) :
    (sessions.modify index change).filter (·.isOpen) = sessions.filter (·.isOpen) := by
  induction sessions generalizing index with
  | nil => simp
  | cons session sessions ih =>
      cases index with
      | zero =>
          have shut : session.isOpen = false := closed session rfl
          simp [same, shut]
      | succ index =>
          have rest : ∀ found, sessions[index]? = some found → found.isOpen = false := by
            intro found there
            exact closed found (by simpa using there)
          simp [List.filter_cons, ih rest]

theorem closedAt_closeConnection (server : TuningServer) (session : Nat) :
    (server.closeConnection session).ClosedAt session := by
  intro found there
  simp only [closeConnection, modifySession, List.getElem?_modify_eq, Option.map_eq_map,
    Option.map_eq_some_iff] at there
  obtain ⟨before, -, rfl⟩ := there
  rfl

theorem ClosedAt.setUser {server : TuningServer} {session : Nat} (closed : server.ClosedAt session)
    (user : Option UserRef) : (server.setUser session user).ClosedAt session := by
  intro found there
  simp only [TuningServer.setUser, modifySession, List.getElem?_modify_eq, Option.map_eq_map,
    Option.map_eq_some_iff] at there
  obtain ⟨before, present, rfl⟩ := there
  exact closed before present

theorem ClosedAt.userLogoff {server : TuningServer} {session : Nat}
    (closed : server.ClosedAt session) (user : Option UserRef) :
    (server.userLogoff user).ClosedAt session := by
  intro found there
  simp only [TuningServer.userLogoff, List.getElem?_map, Option.map_eq_some_iff] at there
  obtain ⟨before, present, rfl⟩ := there
  split
  · rfl
  · exact closed before present

theorem ClosedAt.of_sessions {before after : TuningServer} {session : Nat}
    (closed : before.ClosedAt session) (same : after.sessions = before.sessions) :
    after.ClosedAt session := by
  intro found there
  rw [same] at there
  exact closed found there

/-- Who is logged in on a closed connection makes no difference. -/
theorem sameAudience_setUser {server : TuningServer} {session : Nat}
    (closed : server.ClosedAt session) (user : Option UserRef) :
    SameAudience server.context (server.setUser session user).context := by
  have shut : (server.setUser session user).sessions.filter (·.isOpen) =
      server.sessions.filter (·.isOpen) :=
    filter_modify_of_closed (fun _ => rfl) closed
  apply sameAudience_of_openUsers
  · rw [openUsers, openUsers, shut]
  · rfl
  · rfl

/-! ## Commands -/

theorem exists_of_withUsers {server after : TuningServer} {changed : Except Fault UserDatabase}
    (taken : server.withUsers changed = .ok after) :
    ∃ users, changed = .ok users ∧ after = { server with users := users } := by
  cases changed with
  | error fault => cases taken
  | ok users =>
      cases taken
      exact ⟨users, rfl, rfl⟩

theorem fresh_of_recomputeWith {server after : TuningServer} {changed : Except Fault UserDatabase}
    (taken : server.recomputeWith changed = .ok after) :
    after.Fresh ∧ after.sessions = server.sessions := by
  unfold recomputeWith at taken
  split at taken
  · cases taken
  · rename_i middle edited
    obtain ⟨users, -, rfl⟩ := exists_of_withUsers edited
    obtain ⟨fresh, after_eq⟩ := fresh_of_recompute taken
    exact ⟨fresh, by rw [after_eq]⟩

/-- The three things that granting or revoking can come to. -/
theorem setPrivileges_cases {server after : TuningServer} {privilege : Text} {setting : Bool}
    {names : List Text} (set : server.setPrivileges privilege setting names = .ok after) :
    (server.users.validUserList names = false ∧ after = server) ∨
    ∃ entry, getPrivilegeByName privilege = some entry ∧
      ((entry.index = .influence ∧ after.Fresh ∧ after.sessions = server.sessions) ∨
        (entry.index ≠ .influence ∧ ∃ users,
          server.users.setPrivileges entry.index setting names = .ok users ∧
            after = { server with users := users })) := by
  unfold setPrivileges at set
  split at set
  · right
    split at set
    · cases set
    · rename_i entry found
      refine ⟨entry, found, ?_⟩
      dsimp only at set
      split at set
      · rename_i influence
        exact .inl ⟨influence, fresh_of_recomputeWith set⟩
      · rename_i other
        exact .inr ⟨other, exists_of_withUsers set⟩
  · rename_i invalid
    left
    exact ⟨by simpa using invalid, (Except.ok.inj set).symm⟩

variable {crypt : Text → Text → Text}

/-- The three things that a command on another user's behalf can come to. -/
theorem asUser_cases {server after : TuningServer} {session : Nat} {name password : Text}
    {command : TuningCommand}
    (executed : server.execute crypt session (.asUser name password command) = .ok after) :
    (server.users.authenticateUser crypt name password = .ok none ∧
      after = (server.closeConnection session).setUser session none) ∨
    ∃ user, server.users.authenticateUser crypt name password = .ok (some user) ∧
      ((command = .quit ∧ after = ((server.closeConnection session).setUser session
          (some (.listed user.serial))).setUser session none) ∨
        ∃ middle, ((server.closeConnection session).setUser session
            (some (.listed user.serial))).execute crypt session command = .ok middle ∧
          after = middle.setUser session none) := by
  unfold execute at executed
  dsimp only at executed
  split at executed
  · cases executed
  · rename_i refused
    cases executed
    exact .inl ⟨refused, rfl⟩
  · rename_i user accepted
    right
    refine ⟨user, accepted, ?_⟩
    split at executed
    · cases executed
      exact .inl ⟨rfl, rfl⟩
    · right
      revert executed
      generalize execute crypt _ session command = child
      intro executed
      cases child with
      | error fault => cases executed
      | ok middle =>
          cases executed
          exact ⟨middle, rfl, rfl⟩

theorem closedAt_setPrivileges {server after : TuningServer} {session : Nat} {privilege : Text}
    {setting : Bool} {names : List Text} (closed : server.ClosedAt session)
    (set : server.setPrivileges privilege setting names = .ok after) : after.ClosedAt session := by
  rcases setPrivileges_cases set with ⟨-, rfl⟩ | ⟨_, -, ⟨-, -, sessions⟩ | ⟨-, _, -, rfl⟩⟩
  · exact closed
  · exact closed.of_sessions sessions
  · exact closed.of_sessions rfl

/-- No command reopens a connection. -/
theorem closedAt_execute {command : TuningCommand} {server after : TuningServer} {session : Nat}
    (closed : server.ClosedAt session)
    (executed : server.execute crypt session command = .ok after) : after.ClosedAt session := by
  induction command generalizing server after with
  | quit =>
      cases executed
      exact closedAt_closeConnection server session
  | authenticate name password =>
      unfold execute at executed
      split at executed
      · cases executed
      · cases executed
        exact closed.setUser none
      · obtain ⟨-, after_eq⟩ := fresh_of_recompute executed
        exact (closed.setUser _).of_sessions (by rw [after_eq])
  | asUser name password command ih =>
      have shut := closedAt_closeConnection server session
      rcases asUser_cases executed with ⟨-, rfl⟩ | ⟨user, -, ⟨-, rfl⟩ | ⟨middle, child, rfl⟩⟩
      · exact shut.setUser none
      · exact (shut.setUser _).setUser none
      · exact (ih (shut.setUser _) child).setUser none
  | rateStation stationId rating =>
      unfold execute at executed
      split at executed
      · cases executed
        exact closed
      · split at executed
        · cases executed
        · cases executed
          exact closed
        · exact closed.of_sessions (fresh_of_recomputeWith executed).2
  | userGrant privilege names => exact closedAt_setPrivileges closed executed
  | userRevoke privilege names => exact closedAt_setPrivileges closed executed
  | userDelete name =>
      unfold execute at executed
      split at executed
      · cases executed
        exact closed
      · split at executed
        · cases executed
          exact closed
        · obtain ⟨users, -, rfl⟩ := exists_of_withUsers executed
          exact closed.of_sessions rfl
  | userKick name =>
      unfold execute at executed
      split at executed
      · cases executed
        exact closed
      · cases executed
        split
        · exact closed.userLogoff _
        · exact closed
  | userKickVisitors =>
      cases executed
      exact closed.userLogoff none
  | autotuneUsers names =>
      unfold execute at executed
      split at executed
      · exact closed.of_sessions (fresh_of_recomputeWith executed).2
      · cases executed
        exact closed
  | autotuneAddRemove consider names =>
      unfold execute at executed
      split at executed
      · exact closed.of_sessions (fresh_of_recomputeWith executed).2
      · cases executed
        exact closed
  | autotuneSetMode mode =>
      unfold execute at executed
      split at executed
      · cases executed
      · obtain ⟨-, after_eq⟩ := fresh_of_recompute executed
        exact closed.of_sessions (by rw [after_eq])

theorem fresh_of_setPrivileges {server after : TuningServer} {privilege : Text} {setting : Bool}
    {names : List Text} (valid : server.users.validUserList names = true)
    (influence : (getPrivilegeByName privilege).map (·.index) = some .influence)
    (set : server.setPrivileges privilege setting names = .ok after) : after.Fresh := by
  rcases setPrivileges_cases set with
    ⟨invalid, -⟩ | ⟨entry, found, ⟨-, fresh, -⟩ | ⟨other, -⟩⟩
  · simp [valid] at invalid
  · exact fresh
  · simp [found, other] at influence

/-- A command that ends in a computation leaves fresh results, whatever they were before. -/
theorem fresh_of_recomputes {command : TuningCommand} {server after : TuningServer} {session : Nat}
    (recomputes : server.Recomputes crypt session command)
    (executed : server.execute crypt session command = .ok after) : after.Fresh := by
  induction command generalizing server after with
  | quit => cases recomputes
  | authenticate name password =>
      obtain ⟨user, accepted⟩ := recomputes
      simp only [execute, accepted] at executed
      exact (fresh_of_recompute executed).1
  | asUser name password command ih =>
      obtain ⟨user, accepted, recomputes⟩ := recomputes
      have shut := closedAt_closeConnection server session
      rcases asUser_cases executed with ⟨refused, -⟩ | ⟨other, known, outcome⟩
      · simp [accepted] at refused
      · obtain rfl : user = other := by simpa using accepted.symm.trans known
        rcases outcome with ⟨rfl, -⟩ | ⟨middle, child, rfl⟩
        · cases recomputes
        · have closed := closedAt_execute (shut.setUser _) child
          exact (ih recomputes child).of_sameAudience rfl (sameAudience_setUser closed none)
  | rateStation stationId rating =>
      obtain ⟨user, id⟩ := recomputes
      unfold execute at executed
      split at executed
      · contradiction
      · split at executed
        · cases executed
        · contradiction
        · exact (fresh_of_recomputeWith executed).1
  | userGrant privilege names => exact fresh_of_setPrivileges recomputes.1 recomputes.2 executed
  | userRevoke privilege names => exact fresh_of_setPrivileges recomputes.1 recomputes.2 executed
  | userDelete name => cases recomputes
  | userKick name => cases recomputes
  | userKickVisitors => cases recomputes
  | autotuneUsers names =>
      have valid : server.users.validUserList names = true := recomputes
      simp only [execute, valid, if_true] at executed
      exact (fresh_of_recomputeWith executed).1
  | autotuneAddRemove consider names =>
      have valid : server.users.validUserList names = true := recomputes
      simp only [execute, valid, if_true] at executed
      exact (fresh_of_recomputeWith executed).1
  | autotuneSetMode mode =>
      unfold execute at executed
      split at executed
      · cases executed
      · exact (fresh_of_recompute executed).1

theorem Fresh.setPrivileges {server after : TuningServer} {privilege : Text} {setting : Bool}
    {names : List Text} (fresh : server.Fresh)
    (admitted : (getPrivilegeByName privilege).map (·.index) ≠ some .present)
    (set : server.setPrivileges privilege setting names = .ok after) : after.Fresh := by
  rcases setPrivileges_cases set with
    ⟨-, rfl⟩ | ⟨entry, found, ⟨-, recomputed, -⟩ | ⟨other, users, changed, rfl⟩⟩
  · exact fresh
  · exact recomputed
  · have unheard : entry.index ≠ .present := by simpa [found] using admitted
    obtain ⟨startscript, voices⟩ := setPrivileges_voices ⟨other, unheard⟩ changed
    exact fresh.of_sameAudience rfl (sameAudience_of_voices rfl rfl startscript voices)

/-- A heeded command keeps the results fresh. -/
theorem Fresh.execute {command : TuningCommand} {server after : TuningServer} {session : Nat}
    (fresh : server.Fresh) (heeded : server.Heeded crypt session command)
    (executed : server.execute crypt session command = .ok after) : after.Fresh := by
  induction command generalizing server after with
  | quit =>
      cases executed
      exact fresh.of_sameAudience rfl heeded
  | authenticate name password =>
      unfold TuningServer.execute at executed
      split at executed
      · cases executed
      · rename_i refused
        cases executed
        exact fresh.of_sameAudience rfl (heeded refused)
      · exact (fresh_of_recompute executed).1
  | asUser name password command ih =>
      have shut := closedAt_closeConnection server session
      unfold Heeded at heeded
      rcases asUser_cases executed with ⟨refused, rfl⟩ | ⟨user, accepted, outcome⟩
      · simp only [refused] at heeded
        have closing : (server.closeConnection session).Fresh := fresh.of_sameAudience rfl heeded
        exact closing.of_sameAudience rfl (sameAudience_setUser shut none)
      · simp only [accepted] at heeded
        have enter (same : SameAudience server.context (server.closeConnection session).context) :
            ((server.closeConnection session).setUser session
              (some (.listed user.serial))).Fresh := by
          have closing : (server.closeConnection session).Fresh := fresh.of_sameAudience rfl same
          exact closing.of_sameAudience rfl (sameAudience_setUser shut _)
        rcases outcome with ⟨rfl, rfl⟩ | ⟨middle, child, rfl⟩
        · -- Quitting on another's behalf leaves the connection to its closing.
          obtain recomputes | ⟨same, -⟩ := heeded
          · cases recomputes
          · exact (enter same).of_sameAudience rfl (sameAudience_setUser (shut.setUser _) none)
        · have closed := closedAt_execute (shut.setUser _) child
          have middle_fresh : middle.Fresh := by
            obtain recomputes | ⟨same, heeded⟩ := heeded
            · exact fresh_of_recomputes recomputes child
            · exact ih (enter same) heeded child
          exact middle_fresh.of_sameAudience rfl (sameAudience_setUser closed none)
  | rateStation stationId rating =>
      unfold TuningServer.execute at executed
      split at executed
      · cases executed
        exact fresh
      · split at executed
        · cases executed
        · cases executed
          exact fresh
        · exact (fresh_of_recomputeWith executed).1
  | userGrant privilege names => exact fresh.setPrivileges heeded executed
  | userRevoke privilege names => exact fresh.setPrivileges heeded executed
  | userDelete name =>
      unfold TuningServer.execute at executed
      split at executed
      · cases executed
        exact fresh
      · rename_i user found
        split at executed
        · cases executed
          exact fresh
        · rename_i offline
          obtain ⟨users, deleted, rfl⟩ := exists_of_withUsers executed
          exact fresh.of_sameAudience rfl (heeded user users found (by simpa using offline) deleted)
  | userKick name =>
      unfold TuningServer.execute at executed
      split at executed
      · cases executed
        exact fresh
      · rename_i user found
        cases executed
        split
        · exact fresh.of_sameAudience rfl (heeded user found)
        · exact fresh
  | userKickVisitors =>
      cases executed
      exact fresh.of_sameAudience rfl heeded
  | autotuneUsers names =>
      unfold TuningServer.execute at executed
      split at executed
      · exact (fresh_of_recomputeWith executed).1
      · cases executed
        exact fresh
  | autotuneAddRemove consider names =>
      unfold TuningServer.execute at executed
      split at executed
      · exact (fresh_of_recomputeWith executed).1
      · cases executed
        exact fresh
  | autotuneSetMode mode =>
      unfold TuningServer.execute at executed
      split at executed
      · cases executed
      · exact (fresh_of_recompute executed).1

/-- A heeded event keeps the results fresh. -/
theorem Fresh.step {server after : TuningServer} {event : TuningEvent} (fresh : server.Fresh)
    (heeded : server.HeededEvent crypt event) (moves : server.step crypt event = .ok after) :
    after.Fresh := by
  cases event with
  | connect =>
      cases moves
      exact fresh.of_sameAudience rfl heeded
  | hangUp session =>
      cases moves
      exact fresh.of_sameAudience rfl heeded
  | closed session => exact (fresh_of_recompute moves).1
  | input session command => exact fresh.execute heeded moves

/-- Once autotuning has computed its stations, the results are fresh after every heeded event. -/
theorem fresh_of_run {start server final : TuningServer} {events : List TuningEvent}
    (on : start.recompute = .ok server)
    (heeded : FallibleRun.Guarded (TuningServer.step crypt) (HeededEvent crypt) server events)
    (arrives : FallibleRun.run (TuningServer.step crypt) server events = .ok final) :
    final.Fresh :=
  heeded.invariant Fresh (fun _ _ _ fresh admitted moves => fresh.step admitted moves)
    (fresh_of_recompute on).1 arrives

/-! ## A rejected login -/

/-- A single listener who dislikes the only station, before autotuning is switched on. -/
def sampleServer : TuningServer where
  users := (sampleTuning (sampleRater (ascii "r") .bad)).users
  sessions := [⟨true, some (.listed 1)⟩]
  automaticMode := tuneOnLogins
  tuner := sampleStations

/-- The results for the single listener. -/
def sampleComputed : TuningServer :=
  { sampleServer with
    tuner :=
      { stations := [⟨ascii "QuickMix", ascii "q", true, true⟩,
          ⟨ascii "Rock", ascii "r", false, false⟩]
        computationHadResults := true
        computationHasListeners := true
        notices := [.setQuickmix, .mixChanged,
          .status "autotuner selected tolerable stations"] } }

theorem sampleServer_on : sampleServer.recompute = .ok sampleComputed := by rfl

/-- A visitor comes and goes while somebody is listening. -/
theorem sampleServer_visitor : ∃ final, FallibleRun.run (step fun _ salt => salt) sampleComputed
    [.connect, .closed 1] = .ok final ∧ final.Fresh := by
  have heeded : FallibleRun.Guarded (step fun _ salt => salt) (HeededEvent fun _ salt => salt)
      sampleComputed [.connect, .closed 1] :=
    ⟨⟨rfl, fun _ => Iff.rfl⟩, fun _ _ => ⟨trivial, fun _ _ => trivial⟩⟩
  exact ⟨_, rfl, fresh_of_run sampleServer_on heeded rfl⟩

/-- The listener tries to log in again with a wrong password and becomes a visitor; the station
that nobody dislikes any more stays out of the mix. -/
theorem sampleServer_stale : ∃ final, sampleServer.recompute = .ok sampleComputed ∧
    FallibleRun.run (step fun _ salt => salt) sampleComputed
      [.input 0 (.authenticate (ascii "ann") (ascii "x"))] = .ok final ∧ ¬final.Fresh := by
  refine ⟨sampleComputed.setUser 0 none, sampleServer_on, rfl, fun fresh => ?_⟩
  have settled := (fresh_iff.mp fresh).2.stations
  revert settled
  decide

end TuningServer

end Pianod
