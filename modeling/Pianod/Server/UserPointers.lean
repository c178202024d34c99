import Pianod.Server.UserRestore

/-!
# Pointers to users

A user record may be pointed to from sessions, from the pending and the active credentials and from
credentials saved with users.  Deleting a user frees the record.  The pointers that deletion
detaches and those that keep a user from being deleted are all there can be: saved credentials never
name anybody but the user they are saved with.
-/

namespace Pianod

open Foundation

/-! ## Sessions that open and close -/

/-- The server and, for each session, whether its connection is still open. -/
structure ConnectedServer where
  server : ServerState
  /-- Whether each session is open. -/
  isOpen : List Bool

/-- The commands that log in and out, deal in credentials, or change the user list. -/
inductive AccountCommand where
  | quit
  | authenticate (name password : Text)
  | asUser (name password : Text) (command : AccountCommand)
  | pandoraUser (remember : Bool) (username password : Text) (ownership : Ownership)
      (login : LoginAttempt)
  | pandoraUserSpecify (username password manager : Text) (login : LoginAttempt)
  | pandoraExisting (name : Text) (login : LoginAttempt)
  | userCreate (name encrypted : Text) (rank : UserRank)
  | userDelete (name : Text)
  | userKick (name : Text)
  | userKickVisitors
  | setPandoraRetry (duration : Nat)
  | changeSetting

/-- What happens on the connections, and the iterations of the main loop. -/
inductive AccountEvent where
  | connect
  | command (session : Nat) (command : AccountCommand)
  /-- Closure is initiated because the client is gone. -/
  | hangUp (session : Nat)
  /-- The closing of a connection is reported. -/
  | closed (session : Nat)
  /-- The connection is destroyed, and its context with it. -/
  | destroyed (session : Nat)
  | mainLoop (playerFreed : Bool) (login : LoginAttempt)

namespace ConnectedServer

/-- Initiate the closure of a session's connection. -/
def closeConnection (state : ConnectedServer) (session : Nat) : ConnectedServer :=
  { state with isOpen := state.isOpen.set session false }

/-- Log a user in on a session, or out. -/
def setUser (state : ConnectedServer) (session : Nat) (user : Option UserRef) : ConnectedServer :=
  { state with
    server := { state.server with sessions := state.server.sessions.set session user } }

/-- Initiate the closure of a user's open connections, or of the visitors'. -/
def userLogoff (state : ConnectedServer) (user : Option UserRef) : ConnectedServer :=
  { state with
    isOpen := List.zipWith (fun on isOpen => isOpen && decide (on ≠ user)) state.server.sessions
      state.isOpen }

variable (crypt : Text → Text → Text)

/-- Let the server act. -/
def act (state : ConnectedServer) (action : ServerAction) : Except Fault ConnectedServer :=
  (state.server.step crypt action).map fun server => { state with server := server }

/-- The effect of a command given on a session. -/
def execute (session : Nat) : AccountCommand → ConnectedServer → Except Fault ConnectedServer
  | .quit, state => .ok (state.closeConnection session)
  | .authenticate name password, state => state.act crypt (.authenticate session name password)
  | .asUser name password command, state =>
      let closing := state.closeConnection session
      match closing.server.users.authenticateUser crypt name password with
      | .error fault => .error fault
      | .ok none => .ok (closing.setUser session none)
      | .ok (some user) =>
          -- `QUIT` would close the connection a second time, which changes nothing.
          (execute session command (closing.setUser session (some (.listed user.serial)))).map
            fun after => after.setUser session none
  | .pandoraUser remember username password ownership login, state =>
      state.act crypt (.pandoraUser session remember username password ownership login)
  | .pandoraUserSpecify username password manager login, state =>
      state.act crypt (.pandoraUserSpecify session username password manager login)
  | .pandoraExisting name login, state => state.act crypt (.pandoraExisting session name login)
  | .userCreate name encrypted rank, state => state.act crypt (.userCreate name encrypted rank)
  | .userDelete name, state => state.act crypt (.userDelete name)
  | .userKick name, state =>
      match state.server.users.findUser name with
      | none => .ok state
      | some user =>
          .ok (if state.server.isUserOnline user.serial then
            state.userLogoff (some (.listed user.serial)) else state)
  | .userKickVisitors, state => .ok (state.userLogoff none)
  | .setPandoraRetry duration, state => state.act crypt (.setPandoraRetry duration)
  | .changeSetting, state => state.act crypt .changeSetting

/-- One event. -/
def step (state : ConnectedServer) : AccountEvent → Except Fault ConnectedServer
  | .connect =>
      ({ state with isOpen := state.isOpen ++ [true] }).act crypt .connect
  | .command session command => execute crypt session command state
  | .hangUp session => .ok (state.closeConnection session)
  | .closed session => .ok ((state.closeConnection session).setUser session none)
  | .destroyed session =>
      ({ state with isOpen := state.isOpen.eraseIdx session }).act crypt (.disconnect session)
  | .mainLoop playerFreed login => state.act crypt (.mainLoop playerFreed login)

/-- The state when the server starts: only the start script is connected. -/
def initial (users : UserDatabase) : ConnectedServer := ⟨.initial users, [true]⟩

/-- Restore the users and run the server. -/
def run (file : List UserElement) (adminPassword : Text) (events : List AccountEvent) :
    Except Fault ConnectedServer :=
  match UserDatabase.empty.usersRestore file adminPassword with
  | .error fault => .error fault
  | .ok users => FallibleRun.run (step crypt) (initial users) events

end ConnectedServer

namespace ServerState

/-! ## Pointers in credentials -/

/-- The manager and the creator of credentials are live, and one person if there are both. -/
structure Pointed (users : UserDatabase) (credentials : Credentials) : Prop where
  manager : ∀ ref, credentials.manager = some ref → Live users ref
  creator : ∀ ref, credentials.creator = some ref → Live users ref
  /-- Only credentials without a manager from outside are ever saved. -/
  single : ∀ creator manager, credentials.creator = some creator →
    credentials.manager = some manager → manager = creator

/-- Every pointer to a user leads to a live record. -/
structure Held (state : ServerState) : Prop where
  sessions : ∀ ref, some ref ∈ state.sessions → Live state.users ref
  pending : Pointed state.users state.pending
  pandora : Pointed state.users state.pandora
  accounts : AccountsOwn state.users

theorem pointed_destroyed (users : UserDatabase) : Pointed users .destroyed :=
  ⟨fun _ same => (nomatch same), fun _ same => (nomatch same), fun _ _ same => (nomatch same)⟩

theorem Pointed.mono {before after : UserDatabase} {credentials : Credentials}
    (pointed : Pointed before credentials) (keeps : ∀ ref, Live before ref → Live after ref) :
    Pointed after credentials :=
  ⟨fun ref same => keeps ref (pointed.manager ref same),
    fun ref same => keeps ref (pointed.creator ref same), pointed.single⟩

theorem Held.withUsers {state : ServerState} (held : Held state) {users : UserDatabase}
    (keeps : ∀ ref, Live state.users ref → Live users ref) (accounts : AccountsOwn users) :
    Held { state with users := users } :=
  ⟨fun ref on => keeps ref (held.sessions ref on), held.pending.mono keeps,
    held.pandora.mono keeps, accounts⟩

theorem Held.withSessions {state : ServerState} (held : Held state)
    {sessions : List (Option UserRef)} (live : ∀ ref, some ref ∈ sessions → Live state.users ref) :
    Held { state with sessions := sessions } :=
  ⟨live, held.pending, held.pandora, held.accounts⟩

theorem Held.setSession {state : ServerState} (held : Held state) (session : Nat)
    {user : Option UserRef} (live : ∀ ref, user = some ref → Live state.users ref) :
    Held { state with sessions := state.sessions.set session user } := by
  apply held.withSessions
  intro ref on
  rcases List.mem_or_eq_of_mem_set on with old | new
  · exact held.sessions ref old
  · exact live ref new.symm

private theorem setOwnershipRule_sound {users : UserDatabase} (rule : ManagerRule)
    {manager : Option UserRef} (live : ∀ ref, manager = some ref → Live users ref) :
    FallibleRun.Outcome (SameAccounts users) (· ≠ .useAfterFree)
      (users.setOwnershipRule rule manager) := by
  by_cases named : rule = .user ∧ manager = none
  · simp only [UserDatabase.setOwnershipRule, named.1, named.2, if_true]
    exact Fault.noConfusion
  · obtain ⟨after, set, same⟩ := @setOwnershipRule_ok users rule manager (by
      intro user
      cases shape : manager with
      | none => exact absurd ⟨user, shape⟩ named
      | some ref => exact ⟨ref, rfl, live ref shape⟩)
    rw [set]
    exact same

/-- Saving credentials names nobody but their creator. -/
theorem savePandoraCredentials_sound {users : UserDatabase} {credentials : Credentials}
    (pointed : Pointed users credentials) (own : AccountsOwn users) :
    FallibleRun.Outcome
      (fun after => after.userList.map (·.serial) = users.userList.map (·.serial) ∧
        AccountsOwn after)
      (· ≠ .useAfterFree) (users.savePandoraCredentials credentials) := by
  rw [UserDatabase.savePandoraCredentials]
  split
  · exact Fault.noConfusion
  · exact Fault.noConfusion
  · rename_i password username _ _
    cases creator_eq : credentials.creator with
    | none => exact ⟨rfl, own⟩
    | some creator =>
        have live := (user?_isSome_iff users creator).mpr (pointed.creator creator creator_eq)
        obtain ⟨record, known⟩ := Option.isSome_iff_exists.mp live
        cases ciphered : lamerCipher username password with
        | error fault =>
            rw [cipherBytes_error ciphered]
            exact Fault.noConfusion
        | ok enciphered =>
            simp only [known, FallibleRun.outcome_ok]
            refine ⟨modifyUser_serials users creator fun _ => rfl, ?_⟩
            have saved : OwnAccount creator { credentials with password := some enciphered } :=
              ⟨fun ref same => pointed.single creator ref creator_eq same,
                fun ref same => Option.some.inj (same.symm.trans creator_eq)⟩
            have changed := @AccountsOwn.modifyUser users own creator
              (fun user => { user with
                pandoraCredentials := { credentials with password := some enciphered } })
              (fun _ => rfl) fun _ _ => saved
            rw [creator_eq] at changed
            exact ⟨changed.startscript, changed.listed⟩

/-! ## Each operation keeps all pointers live -/

private theorem loginChanged_sound {active : Credentials} {username password : Text} {fault : Fault}
    (stop : loginChanged active username password = .error fault) : fault ≠ .useAfterFree := by
  unfold loginChanged at stop
  split at stop
  · cases stop
  · split at stop
    · cases stop
      exact Fault.noConfusion
    · cases stop
  · cases stop

theorem setPandoraUser_sound {state : ServerState} (held : Held state) (login : LoginAttempt) :
    FallibleRun.Outcome Held (· ≠ .useAfterFree) (state.setPandoraUser login) := by
  rw [setPandoraUser]
  split
  · exact Fault.noConfusion
  · exact Fault.noConfusion
  · split
    · rename_i fault stop
      exact loginChanged_sound stop
    · split
      · exact ⟨held.sessions, held.pending, held.pandora, held.accounts⟩
      · exact ⟨held.sessions, pointed_destroyed _, held.pandora, held.accounts⟩
      · have ruled := setOwnershipRule_sound state.pending.managerRule held.pending.manager
        split
        · rename_i fault stop
          rw [stop] at ruled
          exact ruled
        · rename_i managed done
          rw [done] at ruled
          have same (ref : UserRef) : Live managed ref ↔ Live state.users ref :=
            live_iff_of_serials (SameAccounts.serials ruled) ref
          have pointed := held.pending.mono fun ref => (same ref).mpr
          have stored := savePandoraCredentials_sound pointed (SameAccounts.own ruled held.accounts)
          split
          · rename_i fault stop
            rw [stop] at stored
            exact stored
          · rename_i users kept
            rw [kept] at stored
            have alive (ref : UserRef) (live : Live state.users ref) : Live users ref :=
              (live_iff_of_serials stored.1 ref).mpr ((same ref).mpr live)
            exact ⟨fun ref on => alive ref (held.sessions ref on), pointed_destroyed _,
              held.pending.mono alive, stored.2⟩

/-- New credentials name the user of the session and, in their place or not, a manager. -/
theorem pointed_new {users : UserDatabase} {user manager : Option UserRef} {remember : Bool}
    (username password : Text) (ownership : Ownership)
    (user_live : ∀ ref, user = some ref → Live users ref)
    (manager_live : ∀ ref, manager = some ref → Live users ref)
    (specified : manager ≠ none → remember = false) :
    Pointed users (newCredentials user manager remember username password ownership) := by
  refine ⟨fun ref same => ?_, fun ref same => ?_, fun creator ref created same => ?_⟩
  · simp only [newCredentials, requestedManager] at same
    split at same
    · exact manager_live ref same
    · exact user_live ref same
    · cases same
    · cases same
  · simp only [newCredentials] at same
    split at same
    · exact user_live ref same
    · cases same
  · simp only [newCredentials, requestedManager] at created same
    split at created
    · rename_i remembered
      split at same
      · have forgotten := specified (Option.some_ne_none _)
        rw [remembered] at forgotten
        cases forgotten
      · exact Option.some.inj (same.symm.trans created)
      · cases same
      · cases same
    · cases created

theorem acceptNewCredentials_sound {state : ServerState} (held : Held state)
    {user manager : Option UserRef} {remember : Bool} (username password : Text)
    (ownership : Ownership) (login : LoginAttempt)
    (user_live : ∀ ref, user = some ref → Live state.users ref)
    (manager_live : ∀ ref, manager = some ref → Live state.users ref)
    (specified : manager ≠ none → remember = false) :
    FallibleRun.Outcome Held (· ≠ .useAfterFree)
      (state.acceptNewCredentials user remember username password ownership manager login) := by
  rw [acceptNewCredentials]
  split
  · exact held
  · dsimp only
    split
    · exact Fault.noConfusion
    · have pointed := pointed_new username password ownership user_live manager_live specified
      have replaced : Held { state with
          pending := newCredentials user manager remember username password ownership } :=
        ⟨held.sessions, pointed, held.pandora, held.accounts⟩
      exact setPandoraUser_sound replaced login

theorem contextUser_live {state : ServerState} (held : Held state) (session : Nat) :
    ∃ user, state.contextUser session = .ok user ∧
      ∀ ref, user = some ref → Live state.users ref := by
  unfold contextUser
  split
  · rename_i ref present
    have live := held.sessions ref (List.mem_of_getElem? present)
    refine ⟨some ref, if_pos ((user?_isSome_iff _ ref).mpr live), fun other same => ?_⟩
    exact Option.some.inj same ▸ live
  · exact ⟨none, rfl, fun ref same => (nomatch same)⟩

/-- Credentials restored from a user's record name that user or nobody. -/
theorem restorePandoraCredentials_sound {users : UserDatabase} {user : User}
    (member : user ∈ users.userList) (own : AccountsOwn users) :
    FallibleRun.Outcome
      (fun restored => ∀ credentials, restored = some credentials → Pointed users credentials)
      (· ≠ .useAfterFree) (UserDatabase.restorePandoraCredentials user) := by
  have saved := own.listed _ (List.mem_map_of_mem member)
  rw [UserDatabase.restorePandoraCredentials]
  split
  · exact fun credentials same => (nomatch same)
  · exact Fault.noConfusion
  · rename_i username enciphered _ _
    cases ciphered : lamerCipher username enciphered with
    | error fault =>
        rw [cipherBytes_error ciphered]
        exact Fault.noConfusion
    | ok password =>
        intro credentials same
        obtain rfl := Option.some.inj same
        refine ⟨fun ref managed => ?_, fun ref same => (nomatch same),
          fun _ _ same => (nomatch same)⟩
        rw [saved.1 ref managed]
        exact live_of_mem member

theorem authenticateUser_sound {crypt : Text → Text → Text} (users : UserDatabase)
    (name password : Text) :
    FallibleRun.Outcome (fun found => ∀ user, found = some user → Live users (.listed user.serial))
      (· ≠ .useAfterFree) (users.authenticateUser crypt name password) := by
  rw [UserDatabase.authenticateUser]
  split
  · rintro user ⟨⟩
  · rename_i user found
    have live := live_of_mem (List.mem_of_find?_eq_some found)
    have either (right : Prop) [Decidable right] : ∀ other,
        (if right then some user else none) = some other → Live users (.listed other.serial) := by
      intro other same
      split at same
      · rw [← Option.some.inj same]
        exact live
      · cases same
    split
    · exact either _
    · split
      · exact Fault.noConfusion
      · exact either _

private theorem userCreate_sound {state : ServerState} (held : Held state)
    (crypt : Text → Text → Text) (name encrypted : Text) (rank : UserRank) :
    FallibleRun.Outcome Held (· ≠ .useAfterFree)
      (state.step crypt (.userCreate name encrypted rank)) := by
  rw [step]
  split
  · exact held
  · rename_i created newuser create
    obtain ⟨list, -, -⟩ := createUser_eq create
    have present : Live created (.listed newuser.serial) := by
      apply live_of_mem
      rw [list]
      exact List.mem_cons_self
    obtain ⟨users, ranked, same⟩ := setRank_ok present rank
    rw [ranked]
    have accounts := SameAccounts.own same (held.accounts.createUser create)
    refine held.withUsers (fun ref live => ?_) accounts
    rw [live_iff_of_serials same.serials]
    cases ref with
    | startscript => trivial
    | listed serial =>
        rw [Live, list]
        exact List.mem_cons_of_mem _ live

/-- Detaching a deleted user leaves only pointers to others. -/
theorem Pointed.detach {users after : UserDatabase} {credentials : Credentials} {serial : Nat}
    (pointed : Pointed users credentials) (delete : users.deleteUser serial = .ok after) :
    Pointed after (detach credentials serial) := by
  refine ⟨fun ref same => ?_, fun ref same => ?_, fun creator ref created same => ?_⟩
  · simp only [ServerState.detach] at same
    split at same
    · cases same
    · rename_i other
      exact live_deleteUser delete (pointed.manager ref same) fun gone => other (gone ▸ same)
  · simp only [ServerState.detach] at same
    split at same
    · cases same
    · rename_i other
      exact live_deleteUser delete (pointed.creator ref same) fun gone => other (gone ▸ same)
  · simp only [ServerState.detach] at created same
    split at created
    · cases created
    · split at same
      · cases same
      · exact pointed.single creator ref created same

private theorem accountsOwn_deleteUser {users after : UserDatabase} {serial : Nat}
    (delete : users.deleteUser serial = .ok after) (own : AccountsOwn users) :
    AccountsOwn after := by
  unfold UserDatabase.deleteUser at delete
  split at delete
  · cases delete
    refine ⟨own.startscript, fun entry member => ?_⟩
    obtain ⟨user, kept, rfl⟩ := List.mem_map.mp member
    exact own.listed _ (List.mem_map_of_mem (List.mem_of_mem_eraseP kept))
  · cases delete

/-- A user is deleted only while on no session, open or closing. -/
theorem userDelete_sound {state : ServerState} (held : Held state) (crypt : Text → Text → Text)
    (name : Text) :
    FallibleRun.Outcome Held (· ≠ .useAfterFree) (state.step crypt (.userDelete name)) := by
  rw [step]
  split
  · exact held
  · rename_i user found
    split
    · exact held
    · rename_i offline
      obtain ⟨users, delete⟩ := deleteUser_ok (List.mem_of_find?_eq_some found)
      rw [delete]
      refine ⟨fun ref on => ?_, held.pending.detach delete, held.pandora.detach delete,
        accountsOwn_deleteUser delete held.accounts⟩
      refine live_deleteUser delete (held.sessions ref on) ?_
      rintro rfl
      exact offline (List.any_eq_true.mpr ⟨_, on, decide_eq_true rfl⟩)

private theorem held_checkSettings {state : ServerState} (held : Held state) (playerFreed : Bool) :
    Held (state.checkSettings playerFreed) := by
  unfold checkSettings changePianoSettings
  split
  · split
    · exact ⟨held.sessions, held.pending, pointed_destroyed _, held.accounts⟩
    · exact ⟨held.sessions, held.pandora, pointed_destroyed _, held.accounts⟩
  · exact held

/-- Every action keeps all pointers live and follows none that dangles. -/
theorem step_sound {state : ServerState} (held : Held state) (crypt : Text → Text → Text)
    (action : ServerAction) :
    FallibleRun.Outcome Held (· ≠ .useAfterFree) (state.step crypt action) := by
  cases action with
  | connect =>
      apply held.withSessions
      intro ref on
      rcases List.mem_append.mp on with old | new
      · exact held.sessions ref old
      · simp at new
  | disconnect session =>
      exact held.withSessions fun ref on => held.sessions ref (List.mem_of_mem_eraseIdx on)
  | authenticate session name password =>
      have found := @authenticateUser_sound crypt state.users name password
      rw [step]
      split
      · rename_i fault stop
        rw [stop] at found
        exact found
      · rename_i user done
        rw [done] at found
        refine held.setSession session fun ref same => ?_
        obtain ⟨known, rfl, rfl⟩ := Option.map_eq_some_iff.mp same
        exact found known rfl
  | forget session =>
      refine held.setSession session fun ref same => ?_
      cases same
  | pandoraUser session remember username password ownership login =>
      obtain ⟨user, read, live⟩ := contextUser_live held session
      rw [step, read]
      refine acceptNewCredentials_sound held username password ownership login live
        (fun ref same => ?_) fun named => absurd rfl named
      cases same
  | pandoraUserSpecify session username password manager login =>
      obtain ⟨user, read, live⟩ := contextUser_live held session
      rw [step, read]
      dsimp only
      split
      · exact held
      · rename_i named found
        refine acceptNewCredentials_sound held username password .unspecified login live
          (fun ref same => ?_) fun _ => rfl
        rw [← Option.some.inj same]
        exact live_of_mem (List.mem_of_find?_eq_some found)
  | pandoraExisting session name login =>
      obtain ⟨user, read, -⟩ := contextUser_live held session
      rw [step, read]
      dsimp only
      split
      · exact held
      · rename_i owner found
        have restored := restorePandoraCredentials_sound (List.mem_of_find?_eq_some found)
          held.accounts
        split
        · rename_i fault stop
          rw [stop] at restored
          exact restored
        · exact held
        · rename_i credentials done
          rw [done] at restored
          have replaced : Held { state with pending := credentials } :=
            ⟨held.sessions, restored credentials rfl, held.pandora, held.accounts⟩
          exact setPandoraUser_sound replaced login
  | userCreate name encrypted rank => exact userCreate_sound held crypt name encrypted rank
  | userDelete name => exact userDelete_sound held crypt name
  | setPandoraRetry duration =>
      rw [step]
      split <;> exact ⟨held.sessions, held.pending, held.pandora, held.accounts⟩
  | changeSetting => exact ⟨held.sessions, held.pending, held.pandora, held.accounts⟩
  | mainLoop playerFreed login =>
      have checked := held_checkSettings held playerFreed
      rw [step, retryLogin]
      split
      · exact setPandoraUser_sound checked login
      · exact checked

end ServerState

/-! ## Runs of the server -/

/-- The pointers to users that credentials hold. -/
def Credentials.pointers (credentials : Credentials) : List UserRef :=
  credentials.manager.toList ++ credentials.creator.toList

/-- Every pointer to a user in a session, in the pending and the active credentials and in the saved
credentials of every user is null, the start script's user, or that of a listed user. -/
structure NoDangling (state : ServerState) : Prop where
  sessions : ∀ ref, some ref ∈ state.sessions → ServerState.Live state.users ref
  pending : ∀ ref ∈ state.pending.pointers, ServerState.Live state.users ref
  pandora : ∀ ref ∈ state.pandora.pointers, ServerState.Live state.users ref
  startscript : ∀ ref ∈ state.users.startscript.pandoraCredentials.pointers,
    ServerState.Live state.users ref
  saved : ∀ user ∈ state.users.userList, ∀ ref ∈ user.pandoraCredentials.pointers,
    ServerState.Live state.users ref

theorem ServerState.Pointed.pointers {users : UserDatabase} {credentials : Credentials}
    (pointed : ServerState.Pointed users credentials) :
    ∀ ref ∈ credentials.pointers, ServerState.Live users ref := by
  intro ref member
  rcases List.mem_append.mp member with manager | creator
  · exact pointed.manager ref (Option.mem_toList.mp manager)
  · exact pointed.creator ref (Option.mem_toList.mp creator)

theorem OwnAccount.pointers {owner : UserRef} {saved : Credentials}
    (own : OwnAccount owner saved) : ∀ ref ∈ saved.pointers, ref = owner := by
  intro ref member
  rcases List.mem_append.mp member with manager | creator
  · exact own.1 ref (Option.mem_toList.mp manager)
  · exact own.2 ref (Option.mem_toList.mp creator)

private theorem ServerState.Held.noDangling {state : ServerState} (held : ServerState.Held state) :
    NoDangling state where
  sessions := held.sessions
  pending := held.pending.pointers
  pandora := held.pandora.pointers
  startscript := fun ref member => by
    rw [held.accounts.startscript.pointers ref member]
    trivial
  saved := fun user listed ref member => by
    have own := held.accounts.listed _ (List.mem_map_of_mem listed)
    rw [own.pointers ref member]
    exact ServerState.live_of_mem listed

namespace ConnectedServer

variable {crypt : Text → Text → Text}

theorem act_sound {state : ConnectedServer} (held : state.server.Held) (action : ServerAction) :
    FallibleRun.Outcome (·.server.Held) (· ≠ .useAfterFree) (state.act crypt action) := by
  have acted := ServerState.step_sound held crypt action
  rw [act]
  cases done : state.server.step crypt action with
  | error fault =>
      rw [done] at acted
      exact acted
  | ok server =>
      rw [done] at acted
      exact acted

/-- A command keeps all pointers live; the induction follows the nesting of `AS USER`. -/
theorem execute_sound {session : Nat} {command : AccountCommand} {state : ConnectedServer}
    (held : state.server.Held) :
    FallibleRun.Outcome (·.server.Held) (· ≠ .useAfterFree)
      (execute crypt session command state) := by
  induction command generalizing state with
  | quit => exact held
  | authenticate name password => exact act_sound held _
  | asUser name password command ih =>
      have found := @ServerState.authenticateUser_sound crypt state.server.users name password
      have same : (state.closeConnection session).server = state.server := rfl
      rw [execute, same]
      cases authenticated : state.server.users.authenticateUser crypt name password with
      | error fault =>
          rw [authenticated] at found
          exact found
      | ok user =>
          rw [authenticated] at found
          cases user with
          | none => exact held.setSession session fun ref same => (nomatch same)
          | some user =>
              have loggedIn : ((state.closeConnection session).setUser session
                  (some (.listed user.serial))).server.Held :=
                held.setSession session fun ref same => Option.some.inj same ▸ found user rfl
              have executed := ih loggedIn
              dsimp only
              cases done : execute crypt session command ((state.closeConnection session).setUser
                  session (some (.listed user.serial))) with
              | error fault =>
                  rw [done] at executed
                  exact executed
              | ok after =>
                  rw [done] at executed
                  exact ServerState.Held.setSession executed session fun ref same =>
                    (nomatch same)
  | pandoraUser remember username password ownership login => exact act_sound held _
  | pandoraUserSpecify username password manager login => exact act_sound held _
  | pandoraExisting name login => exact act_sound held _
  | userCreate name encrypted rank => exact act_sound held _
  | userDelete name => exact act_sound held _
  | userKick name =>
      rw [execute]
      split
      · exact held
      · split <;> exact held
  | userKickVisitors => exact held
  | setPandoraRetry duration => exact act_sound held _
  | changeSetting => exact act_sound held _

theorem step_sound {state : ConnectedServer} (held : state.server.Held) (event : AccountEvent) :
    FallibleRun.Outcome (·.server.Held) (· ≠ .useAfterFree) (state.step crypt event) := by
  cases event with
  | connect =>
      have opened : ({ state with
          isOpen := state.isOpen ++ [true] } : ConnectedServer).server.Held := held
      exact act_sound opened .connect
  | command session command => exact execute_sound held
  | hangUp session => exact held
  | closed session => exact held.setSession session fun ref same => (nomatch same)
  | destroyed session =>
      have closed : ({ state with
          isOpen := state.isOpen.eraseIdx session } : ConnectedServer).server.Held := held
      exact act_sound closed (.disconnect session)
  | mainLoop playerFreed login => exact act_sound held _

/-- No pointer to a user ever dangles, whatever the user file says and whatever happens on the
connections, and no run follows one that does. -/
theorem noDangling_of_run (crypt : Text → Text → Text) (file : List UserElement)
    (adminPassword : Text) (events : List AccountEvent) :
    FallibleRun.Outcome (fun state => NoDangling state.server) (· ≠ .useAfterFree)
      (run crypt file adminPassword events) := by
  have restored := usersRestore_sound file adminPassword
  rw [run]
  cases read : UserDatabase.empty.usersRestore file adminPassword with
  | error fault =>
      rw [read] at restored
      exact restored
  | ok users =>
      rw [read] at restored
      have start : (initial users).server.Held := by
        refine ⟨fun ref on => ?_, ServerState.pointed_destroyed _, ServerState.pointed_destroyed _,
          restored⟩
        obtain rfl : ref = .startscript := by simpa [initial, ServerState.initial] using on
        trivial
      have outcome := FallibleRun.run_outcome (fun state : ConnectedServer => state.server.Held)
        (fun fault : Fault => fault ≠ .useAfterFree)
        (fun state event held => @step_sound crypt state held event) start events
      dsimp only
      cases arrives : FallibleRun.run (step crypt) (initial users) events with
      | error fault =>
          rw [arrives] at outcome
          exact outcome
      | ok state =>
          rw [arrives] at outcome
          exact ServerState.Held.noDangling outcome

end ConnectedServer

end Pianod
