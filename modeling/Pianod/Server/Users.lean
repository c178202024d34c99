import Mathlib.Logic.Function.Basic
import Pianod.Foundation.FallibleRun
import Pianod.Foundation.FirstMatch
import Pianod.Server.LamerCipher
import Pianod.Server.StationRatings

/-!
# User records

The user list lives in the server and is written to disk only while it is marked dirty.  Each
operation below is one function of the user module; records are identified by references, so that
a pointer to a deleted record can be told from one to a live record.
-/

namespace Pianod

open Foundation

/-- The ranks in ascending order of authority. -/
inductive UserRank where
  | none
  | listener
  | standard
  | administrator
deriving DecidableEq, Repr

/-- The position of a rank. -/
def UserRank.level : UserRank → Nat
  | .none => 0
  | .listener => 1
  | .standard => 2
  | .administrator => 3

/-- The privileges and attributes of a user. -/
inductive Privilege where
  | manager
  | service
  | influence
  | tuner
  | present
deriving DecidableEq, Repr

/-- Who may manage the stations of an account. -/
inductive ManagerRule where
  | administrator
  | none
  | user
deriving DecidableEq, Repr

/-- A pointer to a user record: the static one of the start script, or one that was allocated for
the user list.  Serial numbers are never reused. -/
inductive UserRef where
  | startscript
  | listed (serial : Nat)
deriving DecidableEq, Repr

/-- Pandora credentials, active, pending or saved in a user record. -/
structure Credentials where
  username : Option Text
  password : Option Text
  /-- The user who can revise stations. -/
  manager : Option UserRef
  /-- The user with whom to persist the credentials. -/
  creator : Option UserRef
  managerRule : ManagerRule
deriving DecidableEq, Repr

/-- What `destroy_pandora_credentials` leaves behind. -/
def Credentials.destroyed : Credentials := ⟨none, none, none, none, .administrator⟩

/-- A user record. -/
structure User where
  /-- Tells the allocated records apart. -/
  serial : Nat
  name : Text
  password : Text
  rank : UserRank
  /-- The privileges as they are stored. -/
  privileges : Privilege → Bool
  pandoraCredentials : Credentials
  /-- The ratings of the user. -/
  stationPreferences : Option StationPreferences

/-- The names of the ranks; several names may stand for one rank. -/
def rankings : List (Text × UserRank) :=
  [(ascii "disabled", .none), (ascii "guest", .listener), (ascii "listener", .listener),
    (ascii "user", .standard), (ascii "admin", .administrator)]

/-- A privilege's name, its value in new records, and whether it is written to the user file. -/
structure PrivilegeEntry where
  name : Text
  index : Privilege
  /-- Whether a new user has it. -/
  initialValue : Bool
  /-- Whether it is stored. -/
  persistable : Bool

/-- The table of privileges. -/
def privileges : List PrivilegeEntry :=
  [⟨ascii "owner", .manager, false, false⟩, ⟨ascii "service", .service, false, true⟩,
    ⟨ascii "influence", .influence, true, true⟩, ⟨ascii "tuner", .tuner, false, true⟩,
    ⟨ascii "present", .present, false, true⟩]

/-- The names of the manager rules. -/
def managerRules : List (Text × ManagerRule) :=
  [(ascii "mine", .user), (ascii "none", .none), (ascii "administrator", .administrator)]

def getRankByName (name : Text) : Except Fault UserRank :=
  match rankings.find? fun entry => Text.strcasecmp name entry.1 = .eq with
  | some entry => .ok entry.2
  | none => .error (.assertion "0")

def userTypeName (rank : UserRank) : Except Fault Text :=
  match rankings.find? fun entry => rank = entry.2 with
  | some entry => .ok entry.1
  | none => .error (.assertion "0")

def getPrivilegeByName (name : Text) : Option PrivilegeEntry :=
  privileges.find? fun entry => Text.strcasecmp name entry.name = .eq

def getPrivilegeById (privilege : Privilege) : Except Fault PrivilegeEntry :=
  match privileges.find? fun entry => privilege = entry.index with
  | some entry => .ok entry
  | none => .error (.assertion "0")

def getManagerRuleByName (name : Text) : Option ManagerRule :=
  (managerRules.find? fun entry => Text.strcasecmp name entry.1 = .eq).map (·.2)

def getManagerRuleById (rule : ManagerRule) : Except Fault Text :=
  match managerRules.find? fun entry => rule = entry.2 with
  | some entry => .ok entry.1
  | none => .error (.assertion "0")

/-- Whether a privilege is written to the user file. -/
def Privilege.persistable : Privilege → Bool
  | .manager => false
  | _ => true

/-- The value of a privilege in a new record. -/
def Privilege.initialValue : Privilege → Bool
  | .influence => true
  | _ => false

/-- Every privilege has a table entry, found under its own index. -/
theorem getPrivilegeById_ok (privilege : Privilege) :
    ∃ name, getPrivilegeById privilege =
      .ok ⟨name, privilege, privilege.initialValue, privilege.persistable⟩ := by
  cases privilege <;> exact ⟨_, rfl⟩

/-- Every rank is written under a name that is read back as the same rank. -/
theorem userTypeName_ok (rank : UserRank) :
    ∃ name, userTypeName rank = .ok name ∧ getRankByName name = .ok rank := by
  cases rank <;> exact ⟨_, rfl, by decide⟩

/-- Every manager rule is written under a name that is read back as the same rule. -/
theorem getManagerRuleById_ok (rule : ManagerRule) :
    ∃ name, getManagerRuleById rule = .ok name ∧ getManagerRuleByName name = some rule := by
  cases rule <;> exact ⟨_, rfl, by decide⟩

/-- The module's state. -/
structure UserDatabase where
  /-- The users, in the order of the list. -/
  userList : List User
  /-- The static record that acts for the start script. -/
  startscript : User
  /-- Whether the user data has unsaved changes. -/
  dirty : Bool
  /-- The rank of those who have not logged in. -/
  visitorRank : UserRank
  ownershipRule : ManagerRule
  /-- A serial number that no record has had yet. -/
  nextSerial : Nat

namespace UserDatabase

/-- The record behind a user pointer; none once it has been freed. -/
def user? (database : UserDatabase) : UserRef → Option User
  | .startscript => some database.startscript
  | .listed serial => database.userList.find? fun user => user.serial = serial

/-- Change the record behind a user pointer. -/
def modifyUser (database : UserDatabase) (ref : UserRef) (change : User → User) : UserDatabase :=
  match ref with
  | .startscript => { database with startscript := change database.startscript }
  | .listed serial =>
      { database with
        userList := modifyFirst (fun user => user.serial = serial) change database.userList }

def findUser (database : UserDatabase) (username : Text) : Option User :=
  database.userList.find? fun user => Text.strcasecmp username user.name = .eq

/-- Disable a privilege for all users. -/
def clearPrivilege (database : UserDatabase) (privilege : Privilege) : UserDatabase :=
  { database with
    userList := database.userList.map fun user =>
      { user with privileges := Function.update user.privileges privilege false } }

def setOwnershipRule (database : UserDatabase) (rule : ManagerRule) (manager : Option UserRef) :
    Except Fault UserDatabase :=
  let cleared := database.clearPrivilege .manager
  if rule = .user then
    match manager with
    | none => .error (.assertion "manager")
    | some ref =>
        match cleared.user? ref with
        | none => .error .useAfterFree
        | some _ =>
            .ok { cleared.modifyUser ref (fun user =>
                    { user with privileges := Function.update user.privileges .manager true }) with
                  ownershipRule := rule }
  else
    .ok { cleared with ownershipRule := rule }

/-- Create a record with an already encrypted password; `none` for a duplicate name. -/
def createUser (database : UserDatabase) (username password : Text) :
    Option (UserDatabase × User) :=
  match database.findUser username with
  | some _ => none
  | none =>
      let newuser : User :=
        { serial := database.nextSerial
          name := username
          password := password
          rank := .none
          privileges := Privilege.initialValue
          pandoraCredentials := .destroyed
          stationPreferences := none }
      some ({ database with
        userList := newuser :: database.userList
        dirty := true
        nextSerial := database.nextSerial + 1 }, newuser)

/-- Replace a password by one encrypted beforehand. -/
def setUserPassword (database : UserDatabase) (ref : UserRef) (password : Text) : UserDatabase :=
  { database.modifyUser ref (fun user => { user with password := password }) with dirty := true }

/-- The record of a user, if the password is right; an empty stored password admits only an empty
one. -/
def authenticateUser (crypt : Text → Text → Text) (database : UserDatabase)
    (username password : Text) : Except Fault (Option User) :=
  match database.findUser username with
  | none => .ok none
  | some user =>
      if user.password = [] then .ok (if password = [] then some user else none)
      else if user.password.length ≤ 2 then
        .error (.assertion "strlen (user->password) > 2")
      else .ok (if crypt password user.password = user.password then some user else none)

/-- Change a user's password after authenticating the old one. -/
def changePassword (crypt : Text → Text → Text) (database : UserDatabase) (ref : UserRef)
    (old encrypted : Text) : Except Fault UserDatabase :=
  match database.user? ref with
  | none => .error .useAfterFree
  | some user =>
      match database.authenticateUser crypt user.name old with
      | .error fault => .error fault
      | .ok none => .ok database
      | .ok (some auth) =>
          if ref = .listed auth.serial then .ok (database.setUserPassword ref encrypted)
          else .error (.assertion "auth == user")

/-- Remove a record from the list and free it. -/
def deleteUser (database : UserDatabase) (serial : Nat) : Except Fault UserDatabase :=
  if database.userList.any fun user => user.serial = serial then
    .ok { database with
      userList := database.userList.eraseP fun user => user.serial = serial
      dirty := true }
  else
    .error (.assertion "0")

def setVisitorRank (database : UserDatabase) (rank : UserRank) : UserDatabase :=
  { database with visitorRank := rank }

/-- The rank of a user, or of visitors. -/
def getEffectiveRank (database : UserDatabase) : Option User → UserRank
  | some user => user.rank
  | none => database.visitorRank

def haveRank (database : UserDatabase) (user : Option User) (minimum : UserRank) : Bool :=
  minimum.level ≤ (database.getEffectiveRank user).level

def setRank (database : UserDatabase) (ref : UserRef) (rank : UserRank) :
    Except Fault UserDatabase :=
  match database.user? ref with
  | none => .error .useAfterFree
  | some user =>
      .ok { database.modifyUser ref (fun user => { user with rank := rank }) with
        dirty := database.dirty || user.rank ≠ rank }

/-- Whether a user has a privilege; visitors have none of the flags. -/
def havePrivilege (database : UserDatabase) (user : Option User) (privilege : Privilege) : Bool :=
  match privilege, database.ownershipRule, user with
  | .manager, .administrator, _ => database.haveRank user .administrator
  | .manager, .none, _ => false
  | _, _, none => false
  | _, _, some user =>
      if user.rank = .administrator ∧ (privilege = .service ∨ privilege = .tuner) then true
      else user.privileges privilege

def setPrivilege (database : UserDatabase) (ref : UserRef) (privilege : Privilege)
    (setting : Bool) : Except Fault UserDatabase :=
  match database.user? ref, getPrivilegeById privilege with
  | none, _ => .error .useAfterFree
  | some _, .error fault => .error fault
  | some user, .ok entry =>
      .ok { database.modifyUser ref (fun user =>
              { user with privileges := Function.update user.privileges privilege setting }) with
            dirty := database.dirty || (user.privileges privilege != setting && entry.persistable) }

/-- Whether all names of a list belong to users. -/
def validUserList (database : UserDatabase) (usernames : List Text) : Bool :=
  usernames.all fun username => (database.findUser username).isSome

/-- Set a privilege for the users in a list. -/
def setPrivileges (database : UserDatabase) (privilege : Privilege) (setting : Bool) :
    List Text → Except Fault UserDatabase
  | [] => .ok database
  | username :: usernames =>
      match database.findUser username with
      | none => .error (.assertion "user")
      | some user =>
          match database.setPrivilege (.listed user.serial) privilege setting with
          | .error fault => .error fault
          | .ok changed => changed.setPrivileges privilege setting usernames

/-- Attach preferences to a record. -/
def setStationPreferences (database : UserDatabase) (ref : UserRef)
    (preferences : StationPreferences) : UserDatabase :=
  { database.modifyUser ref (fun user => { user with stationPreferences := some preferences }) with
    dirty := true }

/-- Record a user's rating of a station. -/
def setStationRating (database : UserDatabase) (ref : UserRef) (stationId : Text)
    (rating : StationRating) : Except Fault UserDatabase :=
  match database.user? ref with
  | none => .error .useAfterFree
  | some user =>
      match changedRatings user.stationPreferences stationId rating with
      | none => .ok database
      | some preferences => .ok (database.setStationPreferences ref preferences)

/-- Stash Pandora credentials in their creator's record. -/
def savePandoraCredentials (database : UserDatabase) (credentials : Credentials) :
    Except Fault UserDatabase :=
  match credentials.password, credentials.username with
  | none, _ => .error (.assertion "creds->password")
  | _, none => .error (.assertion "creds->username")
  | some password, some username =>
      match credentials.creator with
      | none => .ok database
      | some creator =>
          match lamerCipher username password, database.user? creator with
          | .error fault, _ => .error fault
          | .ok _, none => .error .useAfterFree
          | .ok enciphered, some _ =>
              let saved := { credentials with password := some enciphered }
              .ok { database.modifyUser creator (fun user =>
                      { user with pandoraCredentials := saved }) with dirty := true }

/-- The credentials stored in a user's record, ready for use; the creator stays behind. -/
def restorePandoraCredentials (user : User) : Except Fault (Option Credentials) :=
  match user.pandoraCredentials.username, user.pandoraCredentials.password with
  | none, _ => .ok none
  | some _, none => .error .nullDereference
  | some username, some enciphered =>
      match lamerCipher username enciphered with
      | .error fault => .error fault
      | .ok password =>
          .ok (some
            { username := some username
              password := some password
              manager := user.pandoraCredentials.manager
              creator := none
              managerRule := user.pandoraCredentials.managerRule })

end UserDatabase

end Pianod
