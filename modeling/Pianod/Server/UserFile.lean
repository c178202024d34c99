import Pianod.Server.Users

/-!
# Writing the user file

Each user becomes one element with the account, the persistable privileges and the ratings that
differ from the default.  Only a part of a record reaches the file; two lists that agree in it are
written alike.
-/

namespace Pianod

open Foundation

/-- A byte inside an attribute value. -/
def escapeXml (byte : UInt8) : Text :=
  if byte = 39 then ascii "&apos;"
  else if byte = 34 then ascii "&quot;"
  else if byte = 60 then ascii "&lt;"
  else if byte = 62 then ascii "&gt;"
  else if byte = 38 then ascii "&amp;"
  else [byte]

/-- Write literal and value texts in turn, escaping the values. -/
def fprintxml : List Text → Text
  | [] => []
  | [literal] => literal
  | literal :: value :: parameters => literal ++ value.flatMap escapeXml ++ fprintxml parameters

/-- The ratings that have to be written; neutral is the default. -/
def opinions (preferences : StationPreferences) : List RatingRecord :=
  preferences.ratings.filter fun record => record.rating ≠ .neutral

/-- One rating as the file stores it; the station id is not escaped. -/
def writeRating (record : RatingRecord) : Text :=
  ascii "      <station id='" ++ record.stationId ++ ascii "' rating='" ++
    stationRatingName record.rating ++ ascii "' />\n"

def persistStationPreferences (preferences : Option StationPreferences) : Text :=
  match preferences with
  | none => []
  | some preferences =>
      match opinions preferences with
      | [] => []
      | records =>
          ascii "    <stationpreferences>\n" ++ records.flatMap writeRating ++
            ascii "    </stationpreferences>\n"

/-- The saved Pandora account. -/
def writeAccount (credentials : Credentials) : Except Fault Text :=
  match credentials.username, credentials.password with
  | none, _ => .ok []
  | some _, none => .error (.assertion "user->pandora_credentials.password")
  | some username, some password => do
      let ownership ← getManagerRuleById credentials.managerRule
      return fprintxml [ascii "    <pandora>\n      <user name='", username, ascii "' password='",
        password, ascii "' ownership='", ownership, ascii "' />\n    </pandora>\n"]

/-- One persistable privilege. -/
def writePrivilege (granted : Privilege → Bool) (entry : PrivilegeEntry) : Text :=
  if entry.persistable then
    fprintxml [ascii "    <privilege name='", entry.name, ascii "' granted='",
      if granted entry.index then ascii "true" else ascii "false", ascii "' />\n"]
  else []

def writeUser (user : User) : Except Fault Text := do
  let level ← userTypeName user.rank
  let account ← writeAccount user.pandoraCredentials
  return fprintxml [ascii "  <user name='", user.name, ascii "' password='", user.password,
      ascii "' level='", level, ascii "'>\n"] ++ account ++
    privileges.flatMap (writePrivilege user.privileges) ++
    persistStationPreferences user.stationPreferences ++ ascii "  </user>\n"

/-- The whole user file. -/
def writeUsers (users : List User) : Except Fault Text := do
  let elements ← users.mapM writeUser
  return ascii "<?xml version='1.0' encoding='UTF-8'?>\n<pianodpasswd version='1.0'>\n" ++
    elements.flatten ++ ascii "</pianodpasswd>\n"

/-- The part of a record that reaches the file. -/
structure PersistentRecord where
  name : Text
  password : Text
  rank : UserRank
  /-- The privileges that are stored. -/
  granted : Privilege → Bool
  /-- The user name, the password and who manages the account. -/
  account : Option (Text × Option Text × ManagerRule)
  ratings : List RatingRecord

/-- What the file keeps of a user record. -/
def User.persistent (user : User) : PersistentRecord where
  name := user.name
  password := user.password
  rank := user.rank
  granted := fun privilege => privilege.persistable && user.privileges privilege
  account := user.pandoraCredentials.username.map fun username =>
    (username, user.pandoraCredentials.password, user.pandoraCredentials.managerRule)
  ratings := (user.stationPreferences.map opinions).getD []

private theorem writeAccount_congr {first second : Credentials}
    (same : (first.username.map fun username => (username, first.password, first.managerRule)) =
      second.username.map fun username => (username, second.password, second.managerRule)) :
    writeAccount first = writeAccount second := by
  unfold writeAccount
  cases one : first.username <;> cases two : second.username <;> simp_all

private theorem persistStationPreferences_congr {first second : Option StationPreferences}
    (same : (first.map opinions).getD [] = (second.map opinions).getD []) :
    persistStationPreferences first = persistStationPreferences second := by
  cases first <;> cases second <;> simp_all [persistStationPreferences]

private theorem writePrivileges_congr {first second : Privilege → Bool}
    (same : (fun privilege => privilege.persistable && first privilege) =
      fun privilege : Privilege => privilege.persistable && second privilege) :
    privileges.flatMap (writePrivilege first) = privileges.flatMap (writePrivilege second) := by
  have each (privilege : Privilege) (kept : privilege.persistable = true) :
      first privilege = second privilege := by
    simpa [kept] using congrFun same privilege
  simp [privileges, writePrivilege, each .service rfl, each .influence rfl, each .tuner rfl,
    each .present rfl]

private theorem writeUser_congr {first second : User}
    (same : first.persistent = second.persistent) : writeUser first = writeUser second := by
  simp only [User.persistent, PersistentRecord.mk.injEq] at same
  obtain ⟨name, password, rank, granted, account, ratings⟩ := same
  simp [writeUser, name, password, rank, writeAccount_congr account,
    writePrivileges_congr granted, persistStationPreferences_congr ratings]

/-- Lists with the same persistent records are written alike. -/
theorem writeUsers_congr {first second : List User}
    (same : first.map User.persistent = second.map User.persistent) :
    writeUsers first = writeUsers second := by
  have elements : first.mapM writeUser = second.mapM writeUser := by
    induction first generalizing second with
    | nil =>
        obtain rfl : second = [] := by simpa using same.symm
        rfl
    | cons user first ih =>
        cases second with
        | nil => simp at same
        | cons other second =>
            obtain ⟨head, tail⟩ := List.cons.inj same
            simp [List.mapM_cons, writeUser_congr head, ih tail]
  simp [writeUsers, elements]

end Pianod
