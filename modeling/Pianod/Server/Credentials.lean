import Pianod.Server.Users

/-!
# Pandora credentials

New credentials wait as pending until a login succeeds; then they become the active ones, decide
who manages the account, and are saved with the user who asked to have them remembered.  Failed
logins are retried, and changed connection parameters send the active credentials back to pending.
In between, users come and go.  Authorisation is left out: any session may issue any command here,
which admits more runs than the server does.
-/

namespace Pianod

open Foundation

/-- The answer to a login request. -/
inductive LoginOutcome where
  | accepted
  | rejected
  | transient
deriving DecidableEq, Repr

/-- A login attempt: its answer and the time it is made. -/
structure LoginAttempt where
  outcome : LoginOutcome
  now : Nat

/-- The last word of `PANDORA USER`. -/
inductive Ownership where
  | unspecified
  | mine
  | unowned
deriving DecidableEq, Repr

/-- The state that credentials live in. -/
structure ServerState where
  users : UserDatabase
  /-- The user logged in on each session, visitors having none. -/
  sessions : List (Option UserRef)
  /-- The credentials in use. -/
  pandora : Credentials
  /-- The credentials to log in with next. -/
  pending : Credentials
  /-- When to try to log in again. -/
  retryLoginTime : Nat
  pandoraRetry : Nat
  pianoparamChangePending : Bool

/-- The commands and events that touch credentials, sessions and users.  `AS USER` is an
`authenticate`, one command and a `forget` on the same session. -/
inductive ServerAction where
  | connect
  | disconnect (session : Nat)
  | authenticate (session : Nat) (name password : Text)
  | forget (session : Nat)
  | pandoraUser (session : Nat) (remember : Bool) (username password : Text)
      (ownership : Ownership) (login : LoginAttempt)
  | pandoraUserSpecify (session : Nat) (username password manager : Text) (login : LoginAttempt)
  | pandoraExisting (session : Nat) (name : Text) (login : LoginAttempt)
  | userCreate (name encrypted : Text) (rank : UserRank)
  | userDelete (name : Text)
  | setPandoraRetry (duration : Nat)
  | changeSetting
  | mainLoop (playerFreed : Bool) (login : LoginAttempt)

namespace ServerState

/-- Whether new credentials differ from the active ones. -/
def loginChanged (active : Credentials) (username password : Text) : Except Fault Bool :=
  match active.username, active.password with
  | none, _ => .ok true
  | some activeName, none => if activeName = username then .error .nullDereference else .ok true
  | some activeName, some activePassword =>
      .ok (activeName != username || activePassword != password)

/-- Authenticate with the pending credentials and switch to them. -/
def setPandoraUser (state : ServerState) (login : LoginAttempt) : Except Fault ServerState :=
  match state.pending.username, state.pending.password with
  | none, _ => .error (.assertion "app->settings.pending.username")
  | some _, none => .error (.assertion "app->settings.pending.password")
  | some username, some password =>
      match loginChanged state.pandora username password with
      | .error fault => .error fault
      | .ok changed =>
          match if changed then login.outcome else .accepted with
          | .transient => .ok { state with retryLoginTime := login.now + state.pandoraRetry }
          | .rejected => .ok { state with retryLoginTime := 0, pending := .destroyed }
          | .accepted =>
              match state.users.setOwnershipRule state.pending.managerRule
                  state.pending.manager with
              | .error fault => .error fault
              | .ok users =>
                  match users.savePandoraCredentials state.pending with
                  | .error fault => .error fault
                  | .ok users =>
                      .ok { state with
                        users := users
                        pandora := state.pending
                        pending := .destroyed
                        retryLoginTime := 0 }

/-- The manager rule and manager that new credentials ask for. -/
def requestedManager (user manager : Option UserRef) (ownership : Ownership) :
    ManagerRule × Option UserRef :=
  match manager, ownership with
  | some manager, _ => (.user, some manager)
  | none, .mine => (.user, user)
  | none, .unowned => (.none, none)
  | none, .unspecified => (.administrator, none)

/-- The credentials put together from a command. -/
def newCredentials (user manager : Option UserRef) (remember : Bool) (username password : Text)
    (ownership : Ownership) : Credentials where
  username := some username
  password := some password
  manager := (requestedManager user manager ownership).2
  creator := if remember then user else none
  managerRule := (requestedManager user manager ownership).1

/-- Replace the pending credentials and log in with them. -/
def acceptNewCredentials (state : ServerState) (user : Option UserRef) (remember : Bool)
    (username password : Text) (ownership : Ownership) (manager : Option UserRef)
    (login : LoginAttempt) : Except Fault ServerState :=
  if (ownership = .mine ∨ remember = true) ∧ user = none then .ok state
  else
    let credentials := newCredentials user manager remember username password ownership
    if credentials.managerRule = .user ∧ credentials.manager = none then
      .error (.assertion "creds->manager_rule != MANAGER_USER || creds->manager")
    else
      setPandoraUser { state with pending := credentials } login

/-- Pointers to a user about to be deleted are detached. -/
def detach (credentials : Credentials) (serial : Nat) : Credentials :=
  { credentials with
    creator := if credentials.creator = some (.listed serial) then none else credentials.creator
    manager := if credentials.manager = some (.listed serial) then none else credentials.manager }

/-- Whether a user is logged in on any session. -/
def isUserOnline (state : ServerState) (serial : Nat) : Bool :=
  state.sessions.any fun user => user = some (.listed serial)

/-- Reinitialise libpiano and rewind the login state. -/
def changePianoSettings (state : ServerState) : ServerState :=
  if state.pending.username.isSome then
    { state with pandora := .destroyed, retryLoginTime := 1 }
  else
    { state with
      pending := state.pandora
      pandora := .destroyed
      retryLoginTime := if state.pandora.username.isSome then 1 else 0 }

/-- Between songs, take over connection parameters that were changed. -/
def checkSettings (state : ServerState) (playerFreed : Bool) : ServerState :=
  if playerFreed && state.pianoparamChangePending then
    { state with pianoparamChangePending := false }.changePianoSettings
  else state

/-- Log in again when a scheduled retry is due. -/
def retryLogin (state : ServerState) (login : LoginAttempt) : Except Fault ServerState :=
  if state.retryLoginTime ≠ 0 ∧ state.retryLoginTime < login.now then state.setPandoraUser login
  else .ok state

/-- The user on a session, whose record the command handlers read. -/
def contextUser (state : ServerState) (session : Nat) : Except Fault (Option UserRef) :=
  match state.sessions[session]? with
  | some (some ref) =>
      if (state.users.user? ref).isSome then .ok (some ref) else .error .useAfterFree
  | _ => .ok none

/-- The state when the server starts: only the start script is connected. -/
def initial (users : UserDatabase) : ServerState where
  users := users
  sessions := [some .startscript]
  pandora := .destroyed
  pending := .destroyed
  retryLoginTime := 0
  pandoraRetry := 60
  pianoparamChangePending := false

/-- One command or event; `crypt` hashes passwords. -/
def step (crypt : Text → Text → Text) (state : ServerState) :
    ServerAction → Except Fault ServerState
  | .connect => .ok { state with sessions := state.sessions ++ [none] }
  | .disconnect session => .ok { state with sessions := state.sessions.eraseIdx session }
  | .authenticate session name password =>
      match state.users.authenticateUser crypt name password with
      | .error fault => .error fault
      | .ok user =>
          .ok { state with sessions :=
            state.sessions.set session (user.map fun user => .listed user.serial) }
  | .forget session => .ok { state with sessions := state.sessions.set session none }
  | .pandoraUser session remember username password ownership login =>
      match state.contextUser session with
      | .error fault => .error fault
      | .ok user => state.acceptNewCredentials user remember username password ownership none login
  | .pandoraUserSpecify session username password manager login =>
      match state.contextUser session with
      | .error fault => .error fault
      | .ok user =>
          match state.users.findUser manager with
          | none => .ok state
          | some manager =>
              state.acceptNewCredentials user false username password .unspecified
                (some (.listed manager.serial)) login
  | .pandoraExisting session name login =>
      match state.contextUser session with
      | .error fault => .error fault
      | .ok _ =>
          match state.users.findUser name with
          | none => .ok state
          | some user =>
              match UserDatabase.restorePandoraCredentials user with
              | .error fault => .error fault
              | .ok none => .ok state
              | .ok (some restored) => setPandoraUser { state with pending := restored } login
  | .userCreate name encrypted rank =>
      match state.users.createUser name encrypted with
      | none => .ok state
      | some (created, newuser) =>
          match created.setRank (.listed newuser.serial) rank with
          | .error fault => .error fault
          | .ok users => .ok { state with users := users }
  | .userDelete name =>
      match state.users.findUser name with
      | none => .ok state
      | some user =>
          if state.isUserOnline user.serial then .ok state
          else
            match state.users.deleteUser user.serial with
            | .error fault => .error fault
            | .ok users =>
                .ok { state with
                  users := users
                  pending := detach state.pending user.serial
                  pandora := detach state.pandora user.serial }
  | .setPandoraRetry duration =>
      .ok (if 5 ≤ duration ∧ duration ≤ 300 then { state with pandoraRetry := duration } else state)
  | .changeSetting => .ok { state with pianoparamChangePending := true }
  | .mainLoop playerFreed login => (state.checkSettings playerFreed).retryLogin login

/-! ## Consistency -/

/-- The record behind a pointer has not been freed. -/
def Live (users : UserDatabase) : UserRef → Prop
  | .startscript => True
  | .listed serial => serial ∈ users.userList.map (·.serial)

/-- The property claimed of pending and active credentials: a manager rule that names a user comes
with a live one. -/
def ManagerLive (users : UserDatabase) (credentials : Credentials) : Prop :=
  credentials.managerRule = .user →
    ∃ manager, credentials.manager = some manager ∧ Live users manager

/-- Credentials in use point to live users only where the pointer will be followed. -/
structure CredentialsConsistent (users : UserDatabase) (credentials : Credentials) : Prop where
  password : credentials.username.isSome → credentials.password.isSome
  manager : ManagerLive users credentials
  creator : ∀ creator, credentials.creator = some creator → Live users creator
  /-- Credentials to be remembered are managed by their creator or by no particular user. -/
  remembered : ∀ creator, credentials.creator = some creator → credentials.managerRule = .user →
    credentials.manager = some creator

/-- Credentials saved in a user's record are complete and name no other user as manager. -/
def SavedConsistent (owner : UserRef) (saved : Credentials) : Prop :=
  saved.username.isSome → saved.password.isSome ∧
    (saved.managerRule = .user → saved.manager = some owner)

/-- The serial number of a record with its saved credentials. -/
def account (user : User) : Nat × Credentials := (user.serial, user.pandoraCredentials)

/-- All saved credentials are consistent. -/
structure AccountsConsistent (users : UserDatabase) : Prop where
  startscript : SavedConsistent .startscript users.startscript.pandoraCredentials
  listed : ∀ entry ∈ users.userList.map account, SavedConsistent (.listed entry.1) entry.2

/-- What holds of the server state even between a change of the pending credentials and the login
attempt that follows it. -/
structure Sound (state : ServerState) : Prop where
  pandora : CredentialsConsistent state.users state.pandora
  pending : CredentialsConsistent state.users state.pending
  accounts : AccountsConsistent state.users
  sessions : ∀ user, some user ∈ state.sessions → Live state.users user
  pandoraRetry : 0 < state.pandoraRetry

/-- The invariant of the server state: a retry is scheduled exactly while credentials wait. -/
structure Consistent (state : ServerState) : Prop extends Sound state where
  retry : state.retryLoginTime ≠ 0 ↔ state.pending.username.isSome

/-- Both kinds of credentials keep their manager while a user is deleted. -/
def KeepsManagers (state : ServerState) : ServerAction → Prop
  | .userDelete name => ∀ user, state.users.findUser name = some user →
      state.isUserOnline user.serial = false →
        ∀ credentials ∈ [state.pending, state.pandora],
          credentials.managerRule = .user → credentials.manager ≠ some (.listed user.serial)
  | _ => True

/-- The faults that do not concern credential bookkeeping: a password that cannot be enciphered,
and a stored password too short to hold a salt. -/
def Unrelated (fault : Fault) : Prop :=
  fault = .assertion "0" ∨ fault = .assertion "strlen (user->password) > 2"

/-! ## Changes to the user list -/

/-- The same records with the same saved credentials. -/
def SameAccounts (before after : UserDatabase) : Prop :=
  after.userList.map account = before.userList.map account ∧
    after.startscript.pandoraCredentials = before.startscript.pandoraCredentials

theorem map_serial_eq_map_account (users : List User) :
    users.map (·.serial) = (users.map account).map Prod.fst := by
  simp [account, Function.comp_def]

theorem live_iff_of_serials {before after : UserDatabase}
    (same : after.userList.map (·.serial) = before.userList.map (·.serial)) (ref : UserRef) :
    Live after ref ↔ Live before ref := by
  cases ref with
  | startscript => exact Iff.rfl
  | listed serial => simp only [Live, same]

theorem SameAccounts.serials {before after : UserDatabase} (same : SameAccounts before after) :
    after.userList.map (·.serial) = before.userList.map (·.serial) := by
  rw [map_serial_eq_map_account, same.1, ← map_serial_eq_map_account]

theorem SameAccounts.accounts {before after : UserDatabase} (same : SameAccounts before after)
    (consistent : AccountsConsistent before) : AccountsConsistent after := by
  constructor
  · rw [same.2]
    exact consistent.startscript
  · rw [same.1]
    exact consistent.listed

theorem SameAccounts.trans {first second third : UserDatabase} (one : SameAccounts first second)
    (two : SameAccounts second third) : SameAccounts first third :=
  ⟨two.1.trans one.1, two.2.trans one.2⟩

/-- A pointer can be followed exactly while its record is live. -/
theorem user?_isSome_iff (users : UserDatabase) (ref : UserRef) :
    (users.user? ref).isSome ↔ Live users ref := by
  cases ref with
  | startscript => simp [UserDatabase.user?, Live]
  | listed serial => simp [UserDatabase.user?, Live, List.find?_isSome]

theorem modifyUser_serials (users : UserDatabase) (ref : UserRef) {change : User → User}
    (keeps : ∀ user, (change user).serial = user.serial) :
    (users.modifyUser ref change).userList.map (·.serial) = users.userList.map (·.serial) := by
  cases ref with
  | startscript => rfl
  | listed serial => exact map_modifyFirst fun user _ => keeps user

theorem sameAccounts_modifyUser (users : UserDatabase) (ref : UserRef) {change : User → User}
    (keeps : ∀ user, account (change user) = account user) :
    SameAccounts users (users.modifyUser ref change) := by
  cases ref with
  | startscript => exact ⟨rfl, congrArg Prod.snd (keeps users.startscript)⟩
  | listed serial => exact ⟨map_modifyFirst fun user _ => keeps user, rfl⟩

private theorem sameAccounts_clearPrivilege (users : UserDatabase) (privilege : Privilege) :
    SameAccounts users (users.clearPrivilege privilege) :=
  ⟨by simp [UserDatabase.clearPrivilege, account, Function.comp_def], rfl⟩

/-- Setting the ownership rule succeeds when a manager it names is live. -/
theorem setOwnershipRule_ok {users : UserDatabase} {rule : ManagerRule} {manager : Option UserRef}
    (named : rule = .user → ∃ ref, manager = some ref ∧ Live users ref) :
    ∃ after, users.setOwnershipRule rule manager = .ok after ∧ SameAccounts users after := by
  have cleared := sameAccounts_clearPrivilege users .manager
  by_cases user_rule : rule = .user
  · obtain ⟨ref, rfl, live⟩ := named user_rule
    have found : ((users.clearPrivilege .manager).user? ref).isSome := by
      rw [user?_isSome_iff, live_iff_of_serials cleared.serials]
      exact live
    obtain ⟨record, known⟩ := Option.isSome_iff_exists.mp found
    have changed : SameAccounts (users.clearPrivilege .manager)
        ((users.clearPrivilege .manager).modifyUser ref fun user =>
          { user with privileges := Function.update user.privileges .manager true }) :=
      sameAccounts_modifyUser _ ref fun _ => rfl
    refine ⟨{ (users.clearPrivilege .manager).modifyUser ref fun user =>
        { user with privileges := Function.update user.privileges .manager true } with
      ownershipRule := .user }, ?_, cleared.trans changed⟩
    simp [UserDatabase.setOwnershipRule, user_rule, known]
  · refine ⟨{ users.clearPrivilege .manager with ownershipRule := rule }, ?_, cleared⟩
    simp [UserDatabase.setOwnershipRule, user_rule]

/-- The cipher stops only at a byte it cannot encipher. -/
theorem cipherBytes_error {key : UInt32} {item : Text} {fault : Fault}
    (stop : cipherBytes key item = .error fault) : fault = .assertion "0" := by
  induction item generalizing key with
  | nil => cases stop
  | cons byte item ih =>
      simp only [cipherBytes] at stop
      split at stop
      · cases stop
        rfl
      · rename_i bits known
        cases rest : cipherBytes (rotateKey key bits) item with
        | error inner =>
            rw [rest] at stop
            cases stop
            exact ih rest
        | ok text =>
            rw [rest] at stop
            cases stop

theorem lamerCipher_error {keystr item : Text} {fault : Fault}
    (stop : lamerCipher keystr item = .error fault) : Unrelated fault :=
  .inl (cipherBytes_error stop)

/-- Saving consistent credentials keeps every record and all saved credentials consistent. -/
theorem savePandoraCredentials_outcome {users : UserDatabase} {credentials : Credentials}
    (consistent : CredentialsConsistent users credentials) (accounts : AccountsConsistent users)
    (named : credentials.username.isSome) :
    FallibleRun.Outcome
      (fun after => after.userList.map (·.serial) = users.userList.map (·.serial) ∧
        AccountsConsistent after)
      Unrelated (users.savePandoraCredentials credentials) := by
  obtain ⟨username, user_eq⟩ := Option.isSome_iff_exists.mp named
  obtain ⟨password, pass_eq⟩ := Option.isSome_iff_exists.mp (consistent.password named)
  cases creator_eq : credentials.creator with
  | none =>
      simp only [UserDatabase.savePandoraCredentials, pass_eq, user_eq, creator_eq,
        FallibleRun.outcome_ok]
      exact ⟨trivial, accounts⟩
  | some creator =>
      have live := (user?_isSome_iff users creator).mpr (consistent.creator creator creator_eq)
      obtain ⟨record, known⟩ := Option.isSome_iff_exists.mp live
      cases ciphered : lamerCipher username password with
      | error fault =>
          simp only [UserDatabase.savePandoraCredentials, pass_eq, user_eq, creator_eq, ciphered,
            FallibleRun.outcome_error]
          exact lamerCipher_error ciphered
      | ok enciphered =>
          simp only [UserDatabase.savePandoraCredentials, pass_eq, user_eq, creator_eq, ciphered,
            known, FallibleRun.outcome_ok]
          refine ⟨modifyUser_serials users creator fun _ => rfl, ?_⟩
          have saved : SavedConsistent creator
              { credentials with password := some enciphered } := by
            intro _
            exact ⟨rfl, consistent.remembered creator creator_eq⟩
          rw [user_eq, creator_eq] at saved
          cases creator with
          | startscript => exact ⟨saved, accounts.listed⟩
          | listed serial =>
              refine ⟨accounts.startscript, ?_⟩
              intro entry member
              obtain ⟨user, present, rfl⟩ := List.mem_map.mp member
              rcases mem_modifyFirst present with old | ⟨found, -, matched, rfl⟩
              · exact accounts.listed _ (List.mem_map_of_mem old)
              · obtain rfl : found.serial = serial := of_decide_eq_true matched
                exact saved

/-! ## Each operation keeps the invariant -/

theorem credentialsConsistent_destroyed (users : UserDatabase) :
    CredentialsConsistent users .destroyed := by
  constructor
  · intro named
    cases named
  · intro rule
    cases rule
  · intro creator held
    cases held
  · intro creator held
    cases held

/-- Consistent credentials stay so while no live record is freed. -/
theorem CredentialsConsistent.mono {before after : UserDatabase} {credentials : Credentials}
    (consistent : CredentialsConsistent before credentials)
    (keeps : ∀ ref, Live before ref → Live after ref) :
    CredentialsConsistent after credentials := by
  refine ⟨consistent.password, fun rule => ?_, fun creator held => ?_, consistent.remembered⟩
  · obtain ⟨manager, managed, alive⟩ := consistent.manager rule
    exact ⟨manager, managed, keeps manager alive⟩
  · exact keeps creator (consistent.creator creator held)

theorem CredentialsConsistent.of_serials {before after : UserDatabase} {credentials : Credentials}
    (consistent : CredentialsConsistent before credentials)
    (same : after.userList.map (·.serial) = before.userList.map (·.serial)) :
    CredentialsConsistent after credentials :=
  consistent.mono fun ref => (live_iff_of_serials same ref).mpr

private theorem loginChanged_ok {users : UserDatabase} {active : Credentials}
    (consistent : CredentialsConsistent users active) (username password : Text) :
    ∃ changed, loginChanged active username password = .ok changed := by
  unfold loginChanged
  cases named : active.username with
  | none => exact ⟨true, rfl⟩
  | some activeName =>
      have complete := consistent.password (by rw [named]; rfl)
      obtain ⟨activePassword, secret⟩ := Option.isSome_iff_exists.mp complete
      rw [secret]
      exact ⟨_, rfl⟩

/-- With credentials waiting, a login attempt restores the invariant. -/
theorem setPandoraUser_outcome {state : ServerState} (sound : Sound state)
    (waiting : state.pending.username.isSome) (login : LoginAttempt) :
    FallibleRun.Outcome Consistent Unrelated (state.setPandoraUser login) := by
  obtain ⟨username, user_eq⟩ := Option.isSome_iff_exists.mp waiting
  obtain ⟨password, pass_eq⟩ := Option.isSome_iff_exists.mp (sound.pending.password waiting)
  obtain ⟨changed, changed_eq⟩ := loginChanged_ok sound.pandora username password
  simp only [setPandoraUser, user_eq, pass_eq, changed_eq]
  split
  · -- A transient failure schedules another attempt at a time that is not zero.
    have later := sound.pandoraRetry
    refine { pandora := sound.pandora, pending := sound.pending, accounts := sound.accounts,
             sessions := sound.sessions, pandoraRetry := sound.pandoraRetry, retry := ?_ }
    exact iff_of_true (by simp only; omega) waiting
  · exact { pandora := sound.pandora, pending := credentialsConsistent_destroyed _,
            accounts := sound.accounts, sessions := sound.sessions,
            pandoraRetry := sound.pandoraRetry,
            retry := iff_of_false (fun never => never rfl) (by simp [Credentials.destroyed]) }
  · obtain ⟨owned, owned_eq, same⟩ := setOwnershipRule_ok sound.pending.manager
    have saved := savePandoraCredentials_outcome (sound.pending.of_serials same.serials)
      (same.accounts sound.accounts) waiting
    rw [owned_eq]
    cases saved_eq : owned.savePandoraCredentials state.pending with
    | error fault =>
        rw [saved_eq] at saved
        simp only [saved_eq]
        exact saved
    | ok users =>
        rw [saved_eq] at saved
        simp only [saved_eq]
        have serials := saved.1.trans same.serials
        exact { pandora := sound.pending.of_serials serials
                pending := credentialsConsistent_destroyed _
                accounts := saved.2
                sessions := fun user on =>
                  (live_iff_of_serials serials user).mpr (sound.sessions user on)
                pandoraRetry := sound.pandoraRetry
                retry := iff_of_false (fun never => never rfl) (by simp [Credentials.destroyed]) }

theorem setPandoraUser_of_replaced {state : ServerState} (sound : Sound state)
    {credentials : Credentials} (consistent : CredentialsConsistent state.users credentials)
    (named : credentials.username.isSome) (login : LoginAttempt) :
    FallibleRun.Outcome Consistent Unrelated
      (setPandoraUser { state with pending := credentials } login) := by
  have replaced : Sound { state with pending := credentials } :=
    { pandora := sound.pandora, pending := consistent, accounts := sound.accounts,
      sessions := sound.sessions, pandoraRetry := sound.pandoraRetry }
  exact setPandoraUser_outcome replaced named login

/-- Credentials from a command are consistent when the users they refer to are live. -/
theorem credentialsConsistent_new {users : UserDatabase} {user manager : Option UserRef}
    {remember : Bool} {ownership : Ownership} (username password : Text)
    (user_live : ∀ ref, user = some ref → Live users ref)
    (manager_live : ∀ ref, manager = some ref → Live users ref)
    (specified : manager ≠ none → remember = false)
    (claimed : ownership = .mine ∨ remember = true → user ≠ none) :
    CredentialsConsistent users
      (newCredentials user manager remember username password ownership) := by
  constructor
  · exact fun _ => rfl
  · intro rule
    cases manager with
    | some ref => exact ⟨ref, rfl, manager_live ref rfl⟩
    | none =>
        cases ownership with
        | mine =>
            obtain ⟨ref, known⟩ := Option.ne_none_iff_exists'.mp (claimed (.inl rfl))
            exact ⟨ref, known, user_live ref known⟩
        | unowned => cases rule
        | unspecified => cases rule
  · intro creator held
    cases remember with
    | false => cases held
    | true => exact user_live creator held
  · intro creator held rule
    cases remember with
    | false => cases held
    | true =>
        cases manager with
        | some ref => simp at specified
        | none =>
            cases ownership with
            | mine => exact held
            | unowned => cases rule
            | unspecified => cases rule

theorem acceptNewCredentials_outcome {state : ServerState} (consistent : Consistent state)
    {user manager : Option UserRef} {remember : Bool} {username password : Text}
    {ownership : Ownership} (login : LoginAttempt)
    (user_live : ∀ ref, user = some ref → Live state.users ref)
    (manager_live : ∀ ref, manager = some ref → Live state.users ref)
    (specified : manager ≠ none → remember = false) :
    FallibleRun.Outcome Consistent Unrelated
      (state.acceptNewCredentials user remember username password ownership manager login) := by
  by_cases visitor : (ownership = .mine ∨ remember = true) ∧ user = none
  · rw [acceptNewCredentials, if_pos visitor]
    exact consistent
  · have replaced := credentialsConsistent_new username password user_live manager_live specified
      fun claimed unknown => visitor ⟨claimed, unknown⟩
    rw [acceptNewCredentials, if_neg visitor, if_neg]
    · exact setPandoraUser_of_replaced consistent.toSound replaced rfl login
    · rintro ⟨rule, unmanaged⟩
      obtain ⟨ref, known, -⟩ := replaced.manager rule
      rw [unmanaged] at known
      cases known

private theorem consistent_changePianoSettings {state : ServerState}
    (consistent : Consistent state) : Consistent state.changePianoSettings := by
  unfold changePianoSettings
  split
  · rename_i waiting
    exact { pandora := credentialsConsistent_destroyed _, pending := consistent.pending,
            accounts := consistent.accounts, sessions := consistent.sessions,
            pandoraRetry := consistent.pandoraRetry,
            retry := iff_of_true Nat.one_ne_zero waiting }
  · exact { pandora := credentialsConsistent_destroyed _, pending := consistent.pandora,
            accounts := consistent.accounts, sessions := consistent.sessions,
            pandoraRetry := consistent.pandoraRetry
            retry := by cases state.pandora.username <;> simp }

private theorem consistent_checkSettings {state : ServerState} (consistent : Consistent state)
    (playerFreed : Bool) : Consistent (state.checkSettings playerFreed) := by
  unfold checkSettings
  split
  · exact consistent_changePianoSettings { consistent with }
  · exact consistent

private theorem retryLogin_outcome {state : ServerState} (consistent : Consistent state)
    (login : LoginAttempt) :
    FallibleRun.Outcome Consistent Unrelated (state.retryLogin login) := by
  unfold retryLogin
  split
  · rename_i due
    exact setPandoraUser_outcome consistent.toSound (consistent.retry.mp due.1) login
  · exact consistent

/-- The user on a session can always be read. -/
theorem contextUser_ok {state : ServerState} (sound : Sound state) (session : Nat) :
    ∃ user, state.contextUser session = .ok user ∧
      ∀ ref, user = some ref → Live state.users ref := by
  unfold contextUser
  split
  · rename_i ref present
    have live := sound.sessions ref (List.mem_of_getElem? present)
    refine ⟨some ref, if_pos ((user?_isSome_iff _ _).mpr live), fun other same => ?_⟩
    cases same
    exact live
  · exact ⟨none, rfl, fun ref same => by cases same⟩

theorem live_of_mem {users : UserDatabase} {user : User} (member : user ∈ users.userList) :
    Live users (.listed user.serial) := by
  have mapped : user.serial ∈ users.userList.map (·.serial) := List.mem_map_of_mem member
  exact mapped

/-- A state with other users is consistent when no live record was freed. -/
theorem Consistent.withUsers {state : ServerState} (consistent : Consistent state)
    {users : UserDatabase} (keeps : ∀ ref, Live state.users ref → Live users ref)
    (accounts : AccountsConsistent users) : Consistent { state with users := users } where
  pandora := consistent.pandora.mono keeps
  pending := consistent.pending.mono keeps
  accounts := accounts
  sessions := fun user on => keeps user (consistent.sessions user on)
  pandoraRetry := consistent.pandoraRetry
  retry := consistent.retry

/-- A state with other sessions is consistent when their users are live. -/
theorem Consistent.withSessions {state : ServerState} (consistent : Consistent state)
    {sessions : List (Option UserRef)}
    (live : ∀ user, some user ∈ sessions → Live state.users user) :
    Consistent { state with sessions := sessions } where
  pandora := consistent.pandora
  pending := consistent.pending
  accounts := consistent.accounts
  sessions := live
  pandoraRetry := consistent.pandoraRetry
  retry := consistent.retry

theorem setRank_ok {users : UserDatabase} {ref : UserRef} (live : Live users ref)
    (rank : UserRank) :
    ∃ after, users.setRank ref rank = .ok after ∧ SameAccounts users after := by
  obtain ⟨user, known⟩ := Option.isSome_iff_exists.mp ((user?_isSome_iff users ref).mpr live)
  have same : SameAccounts users (users.modifyUser ref fun user => { user with rank := rank }) :=
    sameAccounts_modifyUser users ref fun _ => rfl
  refine ⟨{ users.modifyUser ref (fun user => { user with rank := rank }) with
    dirty := users.dirty || user.rank ≠ rank }, ?_, same⟩
  simp [UserDatabase.setRank, known]

/-- A created record stands first in the list and has no saved credentials. -/
theorem createUser_eq {users created : UserDatabase} {name password : Text} {newuser : User}
    (create : users.createUser name password = some (created, newuser)) :
    created.userList = newuser :: users.userList ∧ created.startscript = users.startscript ∧
      newuser.pandoraCredentials = .destroyed := by
  unfold UserDatabase.createUser at create
  split at create
  · cases create
  · cases create
    exact ⟨rfl, rfl, rfl⟩

private theorem userCreate_outcome {state : ServerState} (consistent : Consistent state)
    (crypt : Text → Text → Text) (name encrypted : Text) (rank : UserRank) :
    FallibleRun.Outcome Consistent Unrelated
      (state.step crypt (.userCreate name encrypted rank)) := by
  simp only [step]
  split
  · exact consistent
  · rename_i created newuser create
    obtain ⟨list_eq, startscript_eq, empty⟩ := createUser_eq create
    have newborn : Live created (.listed newuser.serial) :=
      live_of_mem (by rw [list_eq]; exact List.mem_cons_self)
    obtain ⟨users, ranked, same⟩ := setRank_ok newborn rank
    simp only [ranked, FallibleRun.outcome_ok]
    apply consistent.withUsers
    · intro ref live
      rw [live_iff_of_serials same.serials]
      cases ref with
      | startscript => trivial
      | listed serial =>
          simp only [Live, list_eq, List.map_cons]
          exact List.mem_cons_of_mem _ live
    · refine same.accounts ⟨startscript_eq ▸ consistent.accounts.startscript, ?_⟩
      intro entry member
      rw [list_eq, List.map_cons] at member
      rcases List.mem_cons.mp member with rfl | old
      · intro named
        simp [account, empty, Credentials.destroyed] at named
      · exact consistent.accounts.listed entry old

/-- Deleting a user frees no other record. -/
theorem live_deleteUser {users after : UserDatabase} {serial : Nat}
    (delete : users.deleteUser serial = .ok after) {ref : UserRef} (live : Live users ref)
    (other : ref ≠ .listed serial) : Live after ref := by
  unfold UserDatabase.deleteUser at delete
  split at delete
  · cases delete
    cases ref with
    | startscript => trivial
    | listed kept =>
        obtain ⟨user, member, rfl⟩ := List.mem_map.mp live
        refine List.mem_map_of_mem ((List.mem_eraseP_of_neg ?_).mpr member)
        intro same
        rw [of_decide_eq_true same] at other
        exact other rfl
  · cases delete

private theorem accountsConsistent_deleteUser {users after : UserDatabase} {serial : Nat}
    (delete : users.deleteUser serial = .ok after) (accounts : AccountsConsistent users) :
    AccountsConsistent after := by
  unfold UserDatabase.deleteUser at delete
  split at delete
  · cases delete
    refine ⟨accounts.startscript, fun entry member => ?_⟩
    obtain ⟨user, kept, rfl⟩ := List.mem_map.mp member
    exact accounts.listed _ (List.mem_map_of_mem (List.mem_of_mem_eraseP kept))
  · cases delete

theorem deleteUser_ok {users : UserDatabase} {user : User} (member : user ∈ users.userList) :
    ∃ after, users.deleteUser user.serial = .ok after := by
  have listed : (users.userList.any fun other => other.serial = user.serial) = true :=
    List.any_eq_true.mpr ⟨user, member, by simp⟩
  exact ⟨_, if_pos listed⟩

/-- Detaching a deleted user leaves credentials consistent unless that user managed them. -/
theorem CredentialsConsistent.detach {users after : UserDatabase} {credentials : Credentials}
    {serial : Nat} (consistent : CredentialsConsistent users credentials)
    (delete : users.deleteUser serial = .ok after)
    (managed : credentials.managerRule = .user → credentials.manager ≠ some (.listed serial)) :
    CredentialsConsistent after (detach credentials serial) := by
  have manager_kept (rule : credentials.managerRule = .user) :
      (ServerState.detach credentials serial).manager = credentials.manager :=
    if_neg (managed rule)
  refine ⟨consistent.password, fun rule => ?_, fun creator held => ?_, fun creator held rule => ?_⟩
  · obtain ⟨manager, manager_eq, live⟩ := consistent.manager rule
    refine ⟨manager, (manager_kept rule).trans manager_eq, live_deleteUser delete live ?_⟩
    rintro rfl
    exact managed rule manager_eq
  · simp only [ServerState.detach] at held
    split at held
    · cases held
    · rename_i other
      refine live_deleteUser delete (consistent.creator creator held) ?_
      rintro rfl
      exact other held
  · simp only [ServerState.detach] at held
    split at held
    · cases held
    · exact (manager_kept rule).trans (consistent.remembered creator held rule)

private theorem userDelete_outcome {state : ServerState} (consistent : Consistent state)
    (crypt : Text → Text → Text) {name : Text} (keeps : KeepsManagers state (.userDelete name)) :
    FallibleRun.Outcome Consistent Unrelated (state.step crypt (.userDelete name)) := by
  simp only [step]
  split
  · exact consistent
  · rename_i user found
    have member := List.mem_of_find?_eq_some found
    cases online : state.isUserOnline user.serial with
    | true => exact consistent
    | false =>
        obtain ⟨users, delete⟩ := deleteUser_ok member
        simp only [delete, Bool.false_eq_true, if_false, FallibleRun.outcome_ok]
        have managed := keeps user found online
        exact
          { pandora := consistent.pandora.detach delete (managed _ (by simp))
            pending := consistent.pending.detach delete (managed _ (by simp))
            accounts := accountsConsistent_deleteUser delete consistent.accounts
            sessions := fun ref on => by
              refine live_deleteUser delete (consistent.sessions ref on) ?_
              rintro rfl
              have logged_in : state.isUserOnline user.serial = true :=
                List.any_eq_true.mpr ⟨_, on, by simp⟩
              rw [online] at logged_in
              cases logged_in
            pandoraRetry := consistent.pandoraRetry
            retry := consistent.retry }

/-- The saved credentials of a listed user can be restored consistently. -/
theorem restorePandoraCredentials_outcome {users : UserDatabase} {user : User}
    (member : user ∈ users.userList) (accounts : AccountsConsistent users) :
    FallibleRun.Outcome (fun restored => ∀ credentials, restored = some credentials →
        CredentialsConsistent users credentials ∧ credentials.username.isSome)
      Unrelated (UserDatabase.restorePandoraCredentials user) := by
  have saved := accounts.listed _ (List.mem_map_of_mem member)
  unfold UserDatabase.restorePandoraCredentials
  cases named : user.pandoraCredentials.username with
  | none =>
      intro credentials same
      cases same
  | some username =>
      have complete := saved (by rw [account, named]; rfl)
      obtain ⟨enciphered, secret⟩ := Option.isSome_iff_exists.mp complete.1
      replace secret : user.pandoraCredentials.password = some enciphered := secret
      rw [secret]
      cases ciphered : lamerCipher username enciphered with
      | error fault => simpa [ciphered] using lamerCipher_error ciphered
      | ok password =>
          simp only [ciphered, FallibleRun.outcome_ok]
          intro credentials same
          cases same
          refine ⟨⟨fun _ => rfl, fun rule => ?_, ?_, ?_⟩, rfl⟩
          · exact ⟨.listed user.serial, complete.2 rule, live_of_mem member⟩
          · intro creator held
            cases held
          · intro creator held
            cases held

/-- Logging a live user in, or anyone out, keeps the invariant. -/
theorem Consistent.setSession {state : ServerState} (consistent : Consistent state) (session : Nat)
    {user : Option UserRef} (live : ∀ ref, user = some ref → Live state.users ref) :
    Consistent { state with sessions := state.sessions.set session user } := by
  apply consistent.withSessions
  intro ref on
  rcases List.mem_or_eq_of_mem_set on with old | new
  · exact consistent.sessions ref old
  · exact live ref new.symm

private theorem authenticate_outcome {state : ServerState} (consistent : Consistent state)
    (crypt : Text → Text → Text) (session : Nat) (name password : Text) :
    FallibleRun.Outcome Consistent Unrelated
      (state.step crypt (.authenticate session name password)) := by
  have visitor : Consistent { state with sessions := state.sessions.set session none } :=
    consistent.setSession session fun ref same => by cases same
  simp only [step, UserDatabase.authenticateUser]
  cases found : state.users.findUser name with
  | none => exact visitor
  | some user =>
      have logged_in : Consistent
          { state with sessions := state.sessions.set session (some (.listed user.serial)) } := by
        apply consistent.setSession session
        intro ref same
        cases same
        exact live_of_mem (List.mem_of_find?_eq_some found)
      by_cases empty : user.password = []
      · simp only [empty, if_true, FallibleRun.outcome_ok]
        split
        · exact logged_in
        · exact visitor
      · by_cases short : user.password.length ≤ 2
        · simp only [empty, short, if_true, if_false, FallibleRun.outcome_error]
          exact .inr rfl
        · simp only [empty, short, if_false, FallibleRun.outcome_ok]
          split
          · exact logged_in
          · exact visitor

/-- Every admitted step keeps the invariant or stops at an unrelated fault. -/
theorem step_outcome {state : ServerState} (consistent : Consistent state)
    (crypt : Text → Text → Text) {action : ServerAction} (keeps : KeepsManagers state action) :
    FallibleRun.Outcome Consistent Unrelated (state.step crypt action) := by
  cases action with
  | connect =>
      apply consistent.withSessions
      intro user on
      rcases List.mem_append.mp on with old | new
      · exact consistent.sessions user old
      · simp at new
  | disconnect session =>
      exact consistent.withSessions fun user on =>
        consistent.sessions user (List.mem_of_mem_eraseIdx on)
  | authenticate session name password =>
      exact authenticate_outcome consistent crypt session name password
  | forget session => exact consistent.setSession session fun ref same => by cases same
  | pandoraUser session remember username password ownership login =>
      obtain ⟨user, read, live⟩ := contextUser_ok consistent.toSound session
      simp only [step, read]
      refine acceptNewCredentials_outcome consistent login live ?_ ?_
      · intro ref none_named
        cases none_named
      · intro named
        exact absurd rfl named
  | pandoraUserSpecify session username password manager login =>
      obtain ⟨user, read, live⟩ := contextUser_ok consistent.toSound session
      simp only [step, read]
      split
      · exact consistent
      · rename_i named found
        refine acceptNewCredentials_outcome consistent login live ?_ fun _ => rfl
        intro ref same
        cases same
        exact live_of_mem (List.mem_of_find?_eq_some found)
  | pandoraExisting session name login =>
      obtain ⟨user, read, -⟩ := contextUser_ok consistent.toSound session
      simp only [step, read]
      split
      · exact consistent
      · rename_i owner found
        have restored := restorePandoraCredentials_outcome (List.mem_of_find?_eq_some found)
          consistent.accounts
        cases result : UserDatabase.restorePandoraCredentials owner with
        | error fault =>
            rw [result] at restored
            exact restored
        | ok credentials =>
            rw [result] at restored
            cases credentials with
            | none => exact consistent
            | some credentials =>
                obtain ⟨good, named⟩ := restored credentials rfl
                exact setPandoraUser_of_replaced consistent.toSound good named login
  | userCreate name encrypted rank => exact userCreate_outcome consistent crypt name encrypted rank
  | userDelete name => exact userDelete_outcome consistent crypt keeps
  | setPandoraRetry duration =>
      simp only [step, FallibleRun.outcome_ok]
      split
      · rename_i range
        have positive : 0 < duration := by omega
        exact { consistent with pandoraRetry := positive }
      · exact consistent
  | changeSetting => exact { consistent with }
  | mainLoop playerFreed login =>
      exact retryLogin_outcome (consistent_checkSettings consistent playerFreed) login

/-- What is claimed of credentials at every iteration of the main loop: a retry is scheduled
exactly while credentials wait, and managers named by rule are live. -/
def CredentialsSound (state : ServerState) : Prop :=
  (state.retryLoginTime ≠ 0 ↔ state.pending.username.isSome) ∧
    ManagerLive state.users state.pending ∧ ManagerLive state.users state.pandora

/-- While no manager of credentials is deleted, credential bookkeeping stays sound, and no
precondition of a login or of the ownership rule is ever broken. -/
theorem credentialsSound_of_run {crypt : Text → Text → Text} {users : UserDatabase}
    {actions : List ServerAction} (restored : AccountsConsistent users)
    (keeps : FallibleRun.Guarded (step crypt) KeepsManagers (initial users) actions) :
    FallibleRun.Outcome CredentialsSound Unrelated
      (FallibleRun.run (step crypt) (initial users) actions) := by
  have start : Consistent (initial users) :=
    { pandora := credentialsConsistent_destroyed users
      pending := credentialsConsistent_destroyed users
      accounts := restored
      sessions := fun user on => by
        obtain rfl : user = .startscript := by simpa [initial] using on
        trivial
      pandoraRetry := Nat.succ_pos 59
      retry := iff_of_false (fun never => never rfl) (fun named => by cases named) }
  have outcome := keeps.outcome Consistent Unrelated
    (fun state action consistent admitted => step_outcome consistent crypt admitted) start
  cases arrives : FallibleRun.run (step crypt) (initial users) actions with
  | error fault =>
      rw [arrives] at outcome
      exact outcome
  | ok state =>
      rw [arrives] at outcome
      exact ⟨outcome.retry, outcome.pending.manager, outcome.pandora.manager⟩

/-! ## Deleting the manager of pending credentials -/

/-- A restored database with one user. -/
def sampleUsers : UserDatabase where
  userList := [{
    serial := 1
    name := ascii "ann"
    password := ascii "./xyz"
    rank := .administrator
    privileges := Privilege.initialValue
    pandoraCredentials := .destroyed
    stationPreferences := none }]
  startscript := {
    serial := 0
    name := ascii "startscript"
    password := []
    rank := .administrator
    privileges := fun _ => true
    pandoraCredentials := .destroyed
    stationPreferences := none }
  dirty := false
  visitorRank := .listener
  ownershipRule := .administrator
  nextSerial := 2

/-- The start script has the account managed by ann while the network is down. -/
def sampleRequest : ServerAction :=
  .pandoraUserSpecify 0 (ascii "account") (ascii "secret") (ascii "ann") ⟨.transient, 1⟩

private theorem accountsConsistent_sampleUsers : AccountsConsistent sampleUsers := by
  constructor
  · intro named
    cases named
  · intro entry member named
    obtain rfl : entry = (1, .destroyed) := by simpa [sampleUsers, account] using member
    cases named

/-- The credentials wait for the next attempt, with their manager in place. -/
theorem sampleRequest_sound : FallibleRun.Outcome CredentialsSound Unrelated
    (FallibleRun.run (step fun _ salt => salt) (initial sampleUsers) [sampleRequest]) :=
  credentialsSound_of_run accountsConsistent_sampleUsers ⟨trivial, fun _ _ => trivial⟩

/-- Deleting ann leaves the rule without its manager, and the next successful login stops at the
assertion in `set_ownership_rule`. -/
theorem sampleRequest_breaks :
    (∃ state, FallibleRun.run (step fun _ salt => salt) (initial sampleUsers)
        [sampleRequest, .userDelete (ascii "ann")] = .ok state ∧ ¬CredentialsSound state) ∧
      FallibleRun.run (step fun _ salt => salt) (initial sampleUsers)
        [sampleRequest, .userDelete (ascii "ann"), .mainLoop true ⟨.accepted, 100⟩] =
          .error (.assertion "manager") := by
  refine ⟨⟨_, rfl, fun sound => ?_⟩, rfl⟩
  obtain ⟨manager, named, -⟩ := sound.2.1 rfl
  cases named

end ServerState

end Pianod
