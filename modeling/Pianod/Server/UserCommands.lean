import Pianod.Server.UserFile

/-!
# The dirty flag

User data is written only while it is marked dirty.  The commands below are all that change user
records while the server runs.  Each of them either marks the data dirty or leaves the text of the
user file as it was, with one exception: considering an empty list of users for autotuning.
-/

namespace Pianod

open Foundation

/-- The operations on user data that commands and logins perform. -/
inductive UserCommand where
  | create (rank name encrypted : Text)
  | setUserPassword (name encrypted : Text)
  | setMyPassword (user : UserRef) (old encrypted : Text)
  | setUserRank (name rank : Text)
  | delete (name : Text) (online : Bool)
  | grant (privilege : Text) (names : List Text)
  | revoke (privilege : Text) (names : List Text)
  | autotuneUsers (names : List Text)
  | autotuneAddRemove (consider : Bool) (names : List Text)
  | rateStation (user : UserRef) (stationId rating : Text)
  | savePandoraCredentials (credentials : Credentials)
  | setOwnershipRule (rule : ManagerRule) (manager : Option UserRef)

namespace UserDatabase

/-- Grant or revoke a privilege for a list of existing users. -/
def changePrivileges (database : UserDatabase) (privilege : Text) (setting : Bool)
    (names : List Text) : Except Fault UserDatabase :=
  if database.validUserList names then
    match getPrivilegeByName privilege with
    | none => .error (.assertion "priv")
    | some entry => database.setPrivileges entry.index setting names
  else .ok database

/-- The effect of a command on the user data. -/
def execute (crypt : Text → Text → Text) (database : UserDatabase) :
    UserCommand → Except Fault UserDatabase
  | .create rank name encrypted =>
      match database.createUser name encrypted with
      | none => .ok database
      | some (created, newuser) =>
          match getRankByName rank with
          | .error fault => .error fault
          | .ok rank => created.setRank (.listed newuser.serial) rank
  | .setUserPassword name encrypted =>
      match database.findUser name with
      | none => .ok database
      | some user => .ok (database.setUserPassword (.listed user.serial) encrypted)
  | .setMyPassword user old encrypted => database.changePassword crypt user old encrypted
  | .setUserRank name rank =>
      match database.findUser name with
      | none => .ok database
      | some user =>
          match getRankByName rank with
          | .error fault => .error fault
          | .ok rank => database.setRank (.listed user.serial) rank
  | .delete name online =>
      match database.findUser name with
      | none => .ok database
      | some user => if online then .ok database else database.deleteUser user.serial
  | .grant privilege names => database.changePrivileges privilege true names
  | .revoke privilege names => database.changePrivileges privilege false names
  | .autotuneUsers names =>
      if database.validUserList names then
        (database.clearPrivilege .present).setPrivileges .present true names
      else .ok database
  | .autotuneAddRemove consider names =>
      if database.validUserList names then database.setPrivileges .present consider names
      else .ok database
  | .rateStation user stationId rating =>
      match getStationRatingByName rating with
      | none => .error (.assertion "0")
      | some rating => database.setStationRating user stationId rating
  | .savePandoraCredentials credentials => database.savePandoraCredentials credentials
  | .setOwnershipRule rule manager => database.setOwnershipRule rule manager

/-- Data that is still unmarked afterwards was unmarked before and would be written alike. -/
def Remembers (before after : UserDatabase) : Prop :=
  after.dirty = false → before.dirty = false ∧
    after.userList.map User.persistent = before.userList.map User.persistent

theorem Remembers.refl (database : UserDatabase) : Remembers database database :=
  fun unmarked => ⟨unmarked, rfl⟩

theorem Remembers.trans {first second third : UserDatabase} (one : Remembers first second)
    (two : Remembers second third) : Remembers first third := by
  intro unmarked
  obtain ⟨still, later⟩ := two unmarked
  obtain ⟨from_start, earlier⟩ := one still
  exact ⟨from_start, later.trans earlier⟩

/-- Marked data is remembered whatever happened to it. -/
theorem Remembers.of_dirty {before after : UserDatabase} (marked : after.dirty = true) :
    Remembers before after := by
  intro unmarked
  simp [marked] at unmarked

@[simp]
theorem modifyUser_dirty (database : UserDatabase) (ref : UserRef) (change : User → User) :
    (database.modifyUser ref change).dirty = database.dirty := by
  cases ref <;> rfl

/-- A change to a record that does not reach the file leaves the file's text alone. -/
theorem modifyUser_persistent {database : UserDatabase} {ref : UserRef} {change : User → User}
    (untouched : ∀ user, database.user? ref = some user →
      (change user).persistent = user.persistent) :
    (database.modifyUser ref change).userList.map User.persistent =
      database.userList.map User.persistent := by
  cases ref with
  | startscript => rfl
  | listed serial => exact map_modifyFirst untouched

private theorem remembers_createUser {database created : UserDatabase} {name password : Text}
    {newuser : User} (create : database.createUser name password = some (created, newuser)) :
    Remembers database created := by
  apply Remembers.of_dirty
  unfold createUser at create
  split at create
  · cases create
  · simp only [Option.some.injEq, Prod.mk.injEq] at create
    rw [← create.1]

theorem remembers_setUserPassword (database : UserDatabase) (ref : UserRef) (password : Text) :
    Remembers database (database.setUserPassword ref password) :=
  Remembers.of_dirty rfl

private theorem remembers_changePassword {crypt : Text → Text → Text}
    {database changed : UserDatabase} {ref : UserRef} {old encrypted : Text}
    (change : database.changePassword crypt ref old encrypted = .ok changed) :
    Remembers database changed := by
  unfold changePassword at change
  split at change
  · cases change
  · split at change
    · cases change
    · cases change
      exact Remembers.refl database
    · split at change
      · cases change
        exact remembers_setUserPassword database ref encrypted
      · cases change

private theorem remembers_deleteUser {database changed : UserDatabase} {serial : Nat}
    (delete : database.deleteUser serial = .ok changed) : Remembers database changed := by
  apply Remembers.of_dirty
  unfold deleteUser at delete
  split at delete
  · cases delete
    rfl
  · cases delete

theorem remembers_setRank {database changed : UserDatabase} {ref : UserRef} {rank : UserRank}
    (set : database.setRank ref rank = .ok changed) : Remembers database changed := by
  unfold setRank at set
  split at set
  · cases set
  · rename_i user found
    cases set
    intro unmarked
    simp only [Bool.or_eq_false_iff, decide_eq_false_iff_not, not_not] at unmarked
    refine ⟨unmarked.1, modifyUser_persistent fun other same => ?_⟩
    obtain rfl := Option.some.inj (found.symm.trans same)
    simp [User.persistent, unmarked.2]

/-- Setting a privilege that is not written, or that is set already, does not reach the file. -/
theorem persistent_update {user : User} {privilege : Privilege} {setting : Bool}
    (idle : privilege.persistable = true → user.privileges privilege = setting) :
    User.persistent
      { user with privileges := Function.update user.privileges privilege setting } =
        user.persistent := by
  have granted : (fun other : Privilege => other.persistable &&
      Function.update user.privileges privilege setting other) =
        fun other => other.persistable && user.privileges other := by
    funext other
    by_cases same : other = privilege
    · subst same
      cases written : other.persistable with
      | false => simp
      | true => simp [idle written]
    · simp [Function.update_of_ne same]
  simpa [User.persistent] using granted

/-- A change of one privilege is noted unless it is no change or never written. -/
theorem remembers_setPrivilege {database changed : UserDatabase} {ref : UserRef}
    {privilege : Privilege} {setting : Bool}
    (set : database.setPrivilege ref privilege setting = .ok changed) :
    Remembers database changed := by
  obtain ⟨name, entry⟩ := getPrivilegeById_ok privilege
  unfold setPrivilege at set
  rw [entry] at set
  split at set
  · cases set
  · rename_i none_such
    cases none_such
  · rename_i user written found known
    cases known
    cases set
    intro unmarked
    simp only [Bool.or_eq_false_iff, Bool.and_eq_false_iff, bne_eq_false_iff_eq] at unmarked
    refine ⟨unmarked.1, modifyUser_persistent fun other same => ?_⟩
    obtain rfl := Option.some.inj (found.symm.trans same)
    refine persistent_update fun written => ?_
    simpa [written] using unmarked.2

theorem remembers_setPrivileges {database changed : UserDatabase} {privilege : Privilege}
    {setting : Bool} {names : List Text}
    (set : database.setPrivileges privilege setting names = .ok changed) :
    Remembers database changed := by
  induction names generalizing database with
  | nil =>
      cases set
      exact Remembers.refl _
  | cons name names ih =>
      simp only [setPrivileges] at set
      split at set
      · cases set
      · split at set
        · cases set
        · rename_i first
          exact (remembers_setPrivilege first).trans (ih set)

theorem remembers_changePrivileges {database changed : UserDatabase} {privilege : Text}
    {setting : Bool} {names : List Text}
    (change : database.changePrivileges privilege setting names = .ok changed) :
    Remembers database changed := by
  unfold changePrivileges at change
  split at change
  · split at change
    · cases change
    · exact remembers_setPrivileges change
  · cases change
    exact Remembers.refl database

private theorem remembers_setStationRating {database changed : UserDatabase} {ref : UserRef}
    {stationId : Text} {rating : StationRating}
    (set : database.setStationRating ref stationId rating = .ok changed) :
    Remembers database changed := by
  unfold setStationRating at set
  split at set
  · cases set
  · split at set
    · cases set
      exact Remembers.refl database
    · cases set
      exact Remembers.of_dirty rfl

private theorem remembers_savePandoraCredentials {database changed : UserDatabase}
    {credentials : Credentials} (save : database.savePandoraCredentials credentials = .ok changed) :
    Remembers database changed := by
  unfold savePandoraCredentials at save
  split at save
  · cases save
  · cases save
  · split at save
    · cases save
      exact Remembers.refl database
    · split at save
      · cases save
      · cases save
      · cases save
        exact Remembers.of_dirty rfl

theorem clearPrivilege_persistent {database : UserDatabase} {privilege : Privilege}
    (idle : ∀ user ∈ database.userList,
      privilege.persistable = true → user.privileges privilege = false) :
    (database.clearPrivilege privilege).userList.map User.persistent =
      database.userList.map User.persistent := by
  simp only [clearPrivilege, List.map_map]
  exact List.map_congr_left fun user member => persistent_update (idle user member)

private theorem remembers_setOwnershipRule {database changed : UserDatabase} {rule : ManagerRule}
    {manager : Option UserRef} (set : database.setOwnershipRule rule manager = .ok changed) :
    Remembers database changed := by
  have cleared : (database.clearPrivilege .manager).userList.map User.persistent =
      database.userList.map User.persistent :=
    clearPrivilege_persistent fun _ _ written => by simp [Privilege.persistable] at written
  simp only [setOwnershipRule] at set
  split at set
  · split at set
    · cases set
    · split at set
      · cases set
      · cases set
        intro unmarked
        refine ⟨by simpa [clearPrivilege] using unmarked, Eq.trans ?_ cleared⟩
        exact modifyUser_persistent fun user _ =>
          persistent_update fun written => by simp [Privilege.persistable] at written
  · cases set
    exact fun unmarked => ⟨unmarked, cleared⟩

/-! ## Considering users for autotuning -/

@[simp]
theorem findUser_clearPrivilege (database : UserDatabase) (privilege : Privilege) (name : Text) :
    (database.clearPrivilege privilege).findUser name = (database.findUser name).map fun user =>
      { user with privileges := Function.update user.privileges privilege false } := by
  simp only [findUser, clearPrivilege, List.find?_map, Function.comp_def]

/-- Marking users present after clearing the mark on everyone is always noted. -/
theorem remembers_autotuneUsers {database changed : UserDatabase} {names : List Text}
    (some_named : names ≠ [])
    (set : (database.clearPrivilege .present).setPrivileges .present true names = .ok changed) :
    Remembers database changed := by
  obtain ⟨name, names, rfl⟩ := List.exists_cons_of_ne_nil some_named
  simp only [setPrivileges] at set
  split at set
  · cases set
  · split at set
    · cases set
    · rename_i user found first moved
      -- The first user named has just lost the mark, so restoring it is a change.
      have marked : first.dirty = true := by
        unfold setPrivilege at moved
        split at moved
        · cases moved
        · cases moved
        · rename_i record entry there known
          obtain ⟨name, present_entry⟩ := getPrivilegeById_ok .present
          obtain rfl := Except.ok.inj (known.symm.trans present_entry)
          cases moved
          have cleared : record.privileges .present = false := by
            have member := List.mem_of_find?_eq_some there
            obtain ⟨original, -, rfl⟩ := List.mem_map.mp member
            simp
          simp [cleared, Privilege.persistable]
      apply Remembers.of_dirty
      by_contra unmarked
      have earlier := (remembers_setPrivileges set (by simpa using unmarked)).1
      simp [marked] at earlier

/-- A command that considers no users for autotuning has nobody to forget: the data is marked
already, or no user is marked present. -/
def ForgetsNobody (database : UserDatabase) (command : UserCommand) : Prop :=
  command = .autotuneUsers [] →
    database.dirty = true ∨ ∀ user ∈ database.userList, user.privileges .present = false

/-- Every admitted command either marks the data or leaves the file's text as it was. -/
theorem remembers_execute {crypt : Text → Text → Text} {database changed : UserDatabase}
    {command : UserCommand} (admitted : ForgetsNobody database command)
    (executed : database.execute crypt command = .ok changed) : Remembers database changed := by
  cases command with
  | create rank name encrypted =>
      simp only [execute] at executed
      split at executed
      · cases executed
        exact Remembers.refl database
      · rename_i created newuser create
        split at executed
        · cases executed
        · exact (remembers_createUser create).trans (remembers_setRank executed)
  | setUserPassword name encrypted =>
      simp only [execute] at executed
      split at executed
      · cases executed
        exact Remembers.refl database
      · cases executed
        exact remembers_setUserPassword _ _ _
  | setMyPassword user old encrypted => exact remembers_changePassword executed
  | setUserRank name rank =>
      simp only [execute] at executed
      split at executed
      · cases executed
        exact Remembers.refl database
      · split at executed
        · cases executed
        · exact remembers_setRank executed
  | delete name online =>
      simp only [execute] at executed
      split at executed
      · cases executed
        exact Remembers.refl database
      · split at executed
        · cases executed
          exact Remembers.refl database
        · exact remembers_deleteUser executed
  | grant privilege names => exact remembers_changePrivileges executed
  | revoke privilege names => exact remembers_changePrivileges executed
  | autotuneUsers names =>
      simp only [execute] at executed
      split at executed
      · by_cases nobody : names = []
        · subst nobody
          cases executed
          intro unmarked
          rcases admitted rfl with marked | idle
          · simp [clearPrivilege, marked] at unmarked
          · exact ⟨unmarked, clearPrivilege_persistent fun user member _ => idle user member⟩
        · exact remembers_autotuneUsers nobody executed
      · cases executed
        exact Remembers.refl database
  | autotuneAddRemove consider names =>
      simp only [execute] at executed
      split at executed
      · exact remembers_setPrivileges executed
      · cases executed
        exact Remembers.refl database
  | rateStation user stationId rating =>
      simp only [execute] at executed
      split at executed
      · cases executed
      · exact remembers_setStationRating executed
  | savePandoraCredentials credentials => exact remembers_savePandoraCredentials executed
  | setOwnershipRule rule manager => exact remembers_setOwnershipRule executed

/-- Over any run that forgets nobody, data still unmarked at the end would be written exactly as
at the start. -/
theorem writeUsers_of_unmarked {crypt : Text → Text → Text} {start final : UserDatabase}
    {commands : List UserCommand}
    (guarded : FallibleRun.Guarded (execute crypt) ForgetsNobody start commands)
    (arrives : FallibleRun.run (execute crypt) start commands = .ok final)
    (unmarked : final.dirty = false) :
    writeUsers final.userList = writeUsers start.userList := by
  have remembered : Remembers start final :=
    FallibleRun.Guarded.invariant (Remembers start)
      (fun _ _ _ before admitted executed => before.trans (remembers_execute admitted executed))
      (Remembers.refl start) guarded arrives
  exact writeUsers_congr (remembered unmarked).2

/-! ## Forgetting who is present -/

/-- A saved database with one user, who may be marked present. -/
def sampleDatabase (present : Bool) : UserDatabase where
  userList := [{
    serial := 1
    name := ascii "ann"
    password := ascii "./xyz"
    rank := .standard
    privileges := fun privilege => privilege = .present && present
    pandoraCredentials := .destroyed
    stationPreferences := none }]
  startscript := {
    serial := 0
    name := ascii "startscript"
    password := []
    rank := .administrator
    privileges := fun _ => true
    pandoraCredentials := .destroyed
    stationPreferences := none }
  dirty := false
  visitorRank := .listener
  ownershipRule := .administrator
  nextSerial := 2

/-- Considering nobody changes nothing while nobody is present. -/
theorem autotuneUsers_nobody_present : writeUsers ((sampleDatabase false).clearPrivilege
    .present).userList = writeUsers (sampleDatabase false).userList :=
  @writeUsers_of_unmarked (fun _ salt => salt) (sampleDatabase false) _ [.autotuneUsers []]
    ⟨fun _ => .inr (by decide), fun _ _ => trivial⟩ rfl rfl

/-- Considering nobody clears the mark of a present user without marking the data. -/
theorem autotuneUsers_forgets : ∃ final,
    FallibleRun.run (execute fun _ salt => salt) (sampleDatabase true) [.autotuneUsers []] =
      .ok final ∧ final.dirty = false ∧
        writeUsers final.userList ≠ writeUsers (sampleDatabase true).userList := by
  refine ⟨(sampleDatabase true).clearPrivilege .present, rfl, rfl, fun same => ?_⟩
  have lengths := congrArg (Except.map List.length) same
  revert lengths
  decide +kernel

end UserDatabase

end Pianod
