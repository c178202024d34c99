import Pianod.Server.Credentials

/-!
# Reading the user file

When the server starts, the user list is built from the elements of the user file.  An element that
lacks a field is skipped; saved credentials are managed by the user they are saved with.
-/

namespace Pianod

open Foundation

/-! ## The elements of a parsed file -/

/-- The `user` element inside a `pandora` element. -/
structure AccountElement where
  name : Option Text
  password : Option Text
  ownership : Option Text
deriving DecidableEq, Repr

structure PrivilegeElement where
  name : Option Text
  granted : Option Text
deriving DecidableEq, Repr

/-- A `station` element of the station preferences. -/
structure RatingElement where
  id : Option Text
  rating : Option Text
deriving DecidableEq, Repr

structure UserElement where
  name : Option Text
  password : Option Text
  level : Option Text
  account : Option AccountElement
  privileges : List PrivilegeElement
  stationpreferences : List RatingElement
deriving DecidableEq, Repr

/-- The record of the start script. -/
def startscriptUser : User where
  serial := 0
  name := ascii "startscript"
  password := []
  rank := .administrator
  privileges := fun _ => true
  pandoraCredentials := .destroyed
  stationPreferences := none

namespace UserDatabase

/-- The module's state before anything is read. -/
def empty : UserDatabase where
  userList := []
  startscript := startscriptUser
  dirty := false
  visitorRank := .listener
  ownershipRule := .administrator
  nextSerial := 1

/-- The saved credentials in an account element, if it is complete and its rule is known. -/
def recreateAccount (owner : UserRef) (element : AccountElement) : Option Credentials :=
  match element.name, element.password, element.ownership with
  | some name, some password, some mode =>
      (getManagerRuleByName mode).map fun rule =>
        { username := some name
          password := some password
          manager := some owner
          creator := none
          managerRule := rule }
  | _, _, _ => none

/-- Set a privilege from the file; only persistable ones are taken over. -/
def recreatePrivilege (granted : Privilege → Bool) (element : PrivilegeElement) :
    Privilege → Bool :=
  match element.name, element.granted with
  | some name, some value =>
      match getPrivilegeByName name with
      | some entry =>
          if entry.persistable then
            Function.update granted entry.index (decide (Text.strcmp value (ascii "true") = .eq))
          else granted
      | none => granted
  | _, _ => granted

/-- Restore the station preferences of a user. -/
def recreateStationPreferences (database : UserDatabase) (ref : UserRef) :
    List RatingElement → Except Fault UserDatabase
  | [] => .ok database
  | element :: elements =>
      match element.id, element.rating with
      | some id, some name =>
          match getStationRatingByName name with
          | none => .error (.assertion "0")
          | some rating =>
              match database.setStationRating ref id rating with
              | .error fault => .error fault
              | .ok rated => rated.recreateStationPreferences ref elements
      | _, _ => database.recreateStationPreferences ref elements

/-- Resubstantiate a user from the file. -/
def recreateUser (database : UserDatabase) (element : UserElement) : Except Fault UserDatabase :=
  match element.name, element.password, element.level with
  | some name, some password, some level =>
      match database.createUser name password with
      | none => .ok database
      | some (created, newuser) =>
          match getRankByName level with
          | .error fault => .error fault
          | .ok rank =>
              let ref := UserRef.listed newuser.serial
              let restored := created.modifyUser ref fun user =>
                { user with
                  rank := rank
                  pandoraCredentials :=
                    (element.account.bind (recreateAccount ref)).getD user.pandoraCredentials
                  privileges := element.privileges.foldl recreatePrivilege user.privileges }
              restored.recreateStationPreferences ref element.stationpreferences
  | _, _, _ => .ok database

/-- Restore all users of the file; without any, there is an administrator whose password was
encrypted beforehand. -/
def recreateUsers (database : UserDatabase) : List UserElement → Except Fault UserDatabase
  | [] => .ok database
  | element :: elements =>
      match database.recreateUser element with
      | .error fault => .error fault
      | .ok recreated => recreated.recreateUsers elements

/-- Restore the user data from a file; without any user, an administrator is created. -/
def usersRestore (database : UserDatabase) (file : List UserElement) (adminPassword : Text) :
    Except Fault UserDatabase :=
  match database.recreateUsers file with
  | .error fault => .error fault
  | .ok restored =>
      if restored.userList = [] then
        match restored.createUser (ascii "admin") adminPassword with
        | none => .ok { restored with dirty := false }
        | some (created, admin) =>
            .ok { created.modifyUser (.listed admin.serial) (fun user =>
                    { user with rank := .administrator }) with dirty := false }
      else .ok { restored with dirty := false }

end UserDatabase

/-! ## Whose accounts are saved -/

/-- Saved credentials name nobody but the user they are saved with. -/
def OwnAccount (owner : UserRef) (saved : Credentials) : Prop :=
  (∀ ref, saved.manager = some ref → ref = owner) ∧ ∀ ref, saved.creator = some ref → ref = owner

/-- All saved credentials name nobody but their users. -/
structure AccountsOwn (users : UserDatabase) : Prop where
  startscript : OwnAccount .startscript users.startscript.pandoraCredentials
  listed : ∀ entry ∈ users.userList.map ServerState.account, OwnAccount (.listed entry.1) entry.2

theorem ownAccount_destroyed (owner : UserRef) : OwnAccount owner .destroyed :=
  ⟨fun _ same => (nomatch same), fun _ same => (nomatch same)⟩

theorem ServerState.SameAccounts.own {before after : UserDatabase}
    (same : ServerState.SameAccounts before after) (own : AccountsOwn before) :
    AccountsOwn after := by
  constructor
  · rw [same.2]
    exact own.startscript
  · rw [same.1]
    exact own.listed

/-- A record may take over credentials that name nobody else. -/
theorem AccountsOwn.modifyUser {users : UserDatabase} (own : AccountsOwn users) {ref : UserRef}
    {change : User → User} (keeps : ∀ user, (change user).serial = user.serial)
    (fits : ∀ user, OwnAccount ref user.pandoraCredentials →
      OwnAccount ref (change user).pandoraCredentials) :
    AccountsOwn (users.modifyUser ref change) := by
  cases ref with
  | startscript => exact ⟨fits _ own.startscript, own.listed⟩
  | listed serial =>
      refine ⟨own.startscript, fun entry member => ?_⟩
      obtain ⟨user, present, rfl⟩ := List.mem_map.mp member
      rcases mem_modifyFirst present with old | ⟨found, there, matched, rfl⟩
      · exact own.listed _ (List.mem_map_of_mem old)
      · obtain rfl : found.serial = serial := of_decide_eq_true matched
        have kept := fits found (own.listed _ (List.mem_map_of_mem there))
        rw [← keeps found] at kept
        exact kept

/-- A new record has no saved credentials. -/
theorem AccountsOwn.createUser {users created : UserDatabase} {name password : Text}
    {newuser : User} (own : AccountsOwn users)
    (create : users.createUser name password = some (created, newuser)) :
    AccountsOwn created := by
  obtain ⟨list, startscript, empty⟩ := ServerState.createUser_eq create
  constructor
  · rw [startscript]
    exact own.startscript
  · rw [list]
    intro entry member
    rcases List.mem_cons.mp member with rfl | old
    · rw [ServerState.account, empty]
      exact ownAccount_destroyed _
    · exact own.listed entry old

private theorem setStationRating_sound {users : UserDatabase} {ref : UserRef}
    (live : ServerState.Live users ref) (stationId : Text) (rating : StationRating) :
    FallibleRun.Outcome (ServerState.SameAccounts users) (· ≠ .useAfterFree)
      (users.setStationRating ref stationId rating) := by
  have known := (ServerState.user?_isSome_iff users ref).mpr live
  obtain ⟨user, found⟩ := Option.isSome_iff_exists.mp known
  rw [UserDatabase.setStationRating, found]
  dsimp only
  split
  · exact ⟨rfl, rfl⟩
  · exact ServerState.sameAccounts_modifyUser users ref fun _ => rfl

private theorem recreateStationPreferences_sound {users : UserDatabase} {ref : UserRef}
    (live : ServerState.Live users ref) (elements : List RatingElement) :
    FallibleRun.Outcome (ServerState.SameAccounts users) (· ≠ .useAfterFree)
      (users.recreateStationPreferences ref elements) := by
  induction elements generalizing users with
  | nil => exact ⟨rfl, rfl⟩
  | cons element elements ih =>
      rw [UserDatabase.recreateStationPreferences]
      split
      · rename_i id name _ _
        split
        · exact Fault.noConfusion
        · rename_i rating _
          have rated := setStationRating_sound live id rating
          split
          · rename_i fault stop
            rw [stop] at rated
            exact rated
          · rename_i after done
            rw [done] at rated
            have still := (ServerState.live_iff_of_serials rated.serials ref).mpr live
            have rest := ih still
            cases outcome : after.recreateStationPreferences ref elements with
            | error fault =>
                rw [outcome] at rest
                exact rest
            | ok final =>
                rw [outcome] at rest
                exact rated.trans rest
      · exact ih live

private theorem ownAccount_recreateAccount {owner : UserRef} {element : AccountElement}
    {saved : Credentials} (recreated : UserDatabase.recreateAccount owner element = some saved) :
    OwnAccount owner saved := by
  unfold UserDatabase.recreateAccount at recreated
  split at recreated
  · obtain ⟨rule, -, rfl⟩ := Option.map_eq_some_iff.mp recreated
    exact ⟨fun ref same => (Option.some.inj same).symm, fun _ same => (nomatch same)⟩
  · cases recreated

private theorem recreateUser_sound {users : UserDatabase} (own : AccountsOwn users)
    (element : UserElement) :
    FallibleRun.Outcome AccountsOwn (· ≠ .useAfterFree) (users.recreateUser element) := by
  rw [UserDatabase.recreateUser]
  split
  · rename_i name password level _ _ _
    split
    · exact own
    · rename_i created newuser create
      split
      · rename_i fault stop
        -- An unknown rank fails an assertion.
        unfold getRankByName at stop
        split at stop
        · cases stop
        · cases stop
          exact Fault.noConfusion
      · rename_i rank known
        let change (user : User) : User :=
          { user with
            rank := rank
            pandoraCredentials := (element.account.bind
              (UserDatabase.recreateAccount (.listed newuser.serial))).getD user.pandoraCredentials
            privileges := element.privileges.foldl UserDatabase.recreatePrivilege user.privileges }
        have restored : AccountsOwn (created.modifyUser (.listed newuser.serial) change) := by
          refine (own.createUser create).modifyUser (fun _ => rfl) fun user kept => ?_
          show OwnAccount _ ((element.account.bind _).getD user.pandoraCredentials)
          cases account : element.account.bind
              (UserDatabase.recreateAccount (.listed newuser.serial)) with
          | none => exact kept
          | some saved =>
              obtain ⟨entry, -, recreated⟩ := Option.bind_eq_some_iff.mp account
              exact ownAccount_recreateAccount recreated
        have live : ServerState.Live
            (created.modifyUser (.listed newuser.serial) change) (.listed newuser.serial) := by
          have serials := @ServerState.modifyUser_serials created (.listed newuser.serial)
            change fun _ => rfl
          rw [ServerState.live_iff_of_serials serials]
          apply ServerState.live_of_mem
          rw [(ServerState.createUser_eq create).1]
          exact List.mem_cons_self
        have rated := recreateStationPreferences_sound live element.stationpreferences
        dsimp only
        cases outcome : (created.modifyUser (.listed newuser.serial)
            change).recreateStationPreferences (.listed newuser.serial)
              element.stationpreferences with
        | error fault =>
            rw [outcome] at rated
            exact rated
        | ok after =>
            rw [outcome] at rated
            exact rated.own restored
  · exact own

private theorem recreateUsers_sound {users : UserDatabase} (own : AccountsOwn users)
    (file : List UserElement) :
    FallibleRun.Outcome AccountsOwn (· ≠ .useAfterFree) (users.recreateUsers file) := by
  induction file generalizing users with
  | nil => exact own
  | cons element file ih =>
      have first := recreateUser_sound own element
      rw [UserDatabase.recreateUsers]
      split
      · rename_i fault stop
        rw [stop] at first
        exact first
      · rename_i recreated done
        rw [done] at first
        exact ih first

/-- Whatever the file says, saved credentials name nobody but the users they are saved with. -/
theorem usersRestore_sound (file : List UserElement) (adminPassword : Text) :
    FallibleRun.Outcome AccountsOwn (· ≠ .useAfterFree)
      (UserDatabase.empty.usersRestore file adminPassword) := by
  have start : AccountsOwn .empty :=
    ⟨ownAccount_destroyed _, fun entry member => (nomatch member)⟩
  have restored := recreateUsers_sound start file
  rw [UserDatabase.usersRestore]
  split
  · rename_i fault stop
    rw [stop] at restored
    exact restored
  · rename_i after done
    rw [done] at restored
    split
    · split
      · exact ⟨restored.startscript, restored.listed⟩
      · rename_i created admin create
        have changed := @AccountsOwn.modifyUser created (restored.createUser create)
          (.listed admin.serial) (fun user => { user with rank := .administrator })
          (fun _ => rfl) fun _ kept => kept
        exact ⟨changed.startscript, changed.listed⟩
    · exact ⟨restored.startscript, restored.listed⟩

end Pianod
