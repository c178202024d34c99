import Pianod.Server.UserRecords

/-!
# User names

Users are looked up by name without regard to case, in a list that grows at its head and is spliced
where a user is deleted.  A record is created only if the search for its name fails, so the names
stay apart however the list came about.
-/

namespace Pianod

open Foundation

/-- The operations that build the user list. -/
inductive UserListAction where
  | restore (file : List UserElement) (adminPassword : Text)
  | create (username password : Text)
  | delete (serial : Nat)

namespace UserDatabase

/-- Perform an operation; creating a user whose name is taken does nothing. -/
def perform (database : UserDatabase) : UserListAction → Except Fault UserDatabase
  | .restore file adminPassword => database.usersRestore file adminPassword
  | .create username password =>
      match database.createUser username password with
      | none => .ok database
      | some (created, _) => .ok created
  | .delete serial => database.deleteUser serial

/-- No two listed users have the same name without case. -/
def NamesApart (database : UserDatabase) : Prop :=
  (database.userList.map fun user => Text.foldCase user.name).Nodup

variable {database after : UserDatabase}

/-! ## Looking up a name -/

theorem findUser_eq_none_iff (database : UserDatabase) (username : Text) :
    database.findUser username = none ↔
      Text.foldCase username ∉ database.userList.map fun user => Text.foldCase user.name := by
  rw [findUser, List.find?_eq_none, List.mem_map]
  constructor
  · rintro missing ⟨user, listed, same⟩
    exact missing user listed (by simp [same])
  · intro missing user listed same
    exact missing ⟨user, listed, (Text.strcasecmp_eq_iff.mp (by simpa using same)).symm⟩

private theorem NamesApart.findUser_eq (apart : database.NamesApart) {user : User}
    (listed : user ∈ database.userList) {username : Text}
    (same : Text.strcasecmp username user.name = .eq) : database.findUser username = some user := by
  have found : (database.findUser username).isSome :=
    List.find?_isSome.mpr ⟨user, listed, by simpa using same⟩
  obtain ⟨other, found⟩ := Option.isSome_iff_exists.mp found
  have otherSame : Text.strcasecmp username other.name = .eq := by
    simpa using List.find?_some found
  rw [Text.strcasecmp_eq_iff] at same otherSame
  rw [found, List.inj_on_of_nodup_map apart (List.mem_of_find?_eq_some found) listed
    (otherSame.symm.trans same)]

private theorem createUser_eq_none_iff (database : UserDatabase) (username password : Text) :
    database.createUser username password = none ↔
      ∃ user ∈ database.userList, Text.strcasecmp username user.name = .eq := by
  unfold createUser
  cases found : database.findUser username with
  | none =>
      refine iff_of_false (by simp) ?_
      rintro ⟨user, listed, same⟩
      simpa [same] using List.find?_eq_none.mp found user listed
  | some user =>
      exact iff_of_true rfl
        ⟨user, List.mem_of_find?_eq_some found, by simpa using List.find?_some found⟩

theorem createUser_eq_some {username password : Text} {newuser : User}
    (created : database.createUser username password = some (after, newuser)) :
    after.userList = newuser :: database.userList ∧ newuser.name = username ∧
      database.findUser username = none := by
  unfold createUser at created
  split at created
  · cases created
  · rename_i free
    cases created
    exact ⟨rfl, rfl, free⟩

/-! ## Names stay apart -/

/-- The same names are listed, whatever else was written in the records. -/
def SameNames (before after : UserDatabase) : Prop :=
  after.userList.map (·.name) = before.userList.map (·.name)

theorem namesApart_of_sameNames (same : SameNames database after) (apart : database.NamesApart) :
    after.NamesApart := by
  have folded (users : UserDatabase) :
      (users.userList.map fun user => Text.foldCase user.name) =
        (users.userList.map (·.name)).map Text.foldCase := by simp
  unfold NamesApart
  rwa [folded, same, ← folded]

theorem sameNames_modifyUser (database : UserDatabase) (ref : UserRef) {change : User → User}
    (name : ∀ user, (change user).name = user.name) :
    SameNames database (database.modifyUser ref change) := by
  cases ref with
  | startscript => rfl
  | listed serial => exact map_modifyFirst fun user _ => name user

/-- Edits leave the names alone. -/
theorem sameNames_of_edited (edited : Edited database after) : SameNames database after := by
  induction edited with
  | refl => rfl
  | edit _ ref edits ih =>
      refine (sameNames_modifyUser _ ref fun user => ?_).trans ih
      cases edits <;> rfl
  | clear _ privilege ih =>
      refine Eq.trans ?_ ih
      simp [clearPrivilege]
  | settings _ _ _ _ ih => exact ih

theorem NamesApart.create (apart : database.NamesApart) {username password : Text} {newuser : User}
    (created : database.createUser username password = some (after, newuser)) :
    after.NamesApart := by
  obtain ⟨list, name, free⟩ := createUser_eq_some created
  unfold NamesApart
  rw [list, List.map_cons, List.nodup_cons, name]
  exact ⟨(findUser_eq_none_iff database username).mp free, apart⟩

theorem NamesApart.recreateUser (apart : database.NamesApart) {element : UserElement}
    (restored : database.recreateUser element = .ok after) : after.NamesApart := by
  unfold UserDatabase.recreateUser at restored
  split at restored
  · split at restored
    · cases restored
      exact apart
    · rename_i created
      split at restored
      · cases restored
      · have rated := sameNames_of_edited (.recreateStationPreferences restored)
        refine namesApart_of_sameNames (rated.trans ?_) (apart.create created)
        exact sameNames_modifyUser _ _ fun _ => rfl
  · cases restored
    exact apart

theorem NamesApart.recreateUsers (apart : database.NamesApart) {file : List UserElement}
    (restored : database.recreateUsers file = .ok after) : after.NamesApart := by
  induction file generalizing database with
  | nil =>
      cases restored
      exact apart
  | cons element file induction =>
      unfold UserDatabase.recreateUsers at restored
      split at restored
      · cases restored
      · rename_i first
        exact induction (apart.recreateUser first) restored

theorem NamesApart.usersRestore (apart : database.NamesApart) {file : List UserElement}
    {adminPassword : Text} (restored : database.usersRestore file adminPassword = .ok after) :
    after.NamesApart := by
  unfold UserDatabase.usersRestore at restored
  split at restored
  · cases restored
  · rename_i recreated
    have apart := apart.recreateUsers recreated
    split at restored
    · split at restored
      · cases restored
        exact apart
      · rename_i created admin create
        cases restored
        have ranked := @sameNames_modifyUser created (.listed admin.serial)
          (fun user => { user with rank := .administrator }) fun _ => rfl
        exact namesApart_of_sameNames ranked (apart.create create)
    · cases restored
      exact apart

theorem NamesApart.delete (apart : database.NamesApart) {serial : Nat}
    (deleted : database.deleteUser serial = .ok after) : after.NamesApart := by
  unfold deleteUser at deleted
  split at deleted
  · cases deleted
    exact apart.sublist (List.eraseP_sublist.map _)
  · cases deleted

/-! ## Whole sequences -/

/-- The user records are apart, by number and by name. -/
structure Apart (database : UserDatabase) : Prop where
  numbered : Numbered database
  names : database.NamesApart

theorem Apart.perform (apart : database.Apart) {action : UserListAction}
    (done : database.perform action = .ok after) : after.Apart := by
  cases action with
  | restore file adminPassword =>
      exact ⟨apart.numbered.usersRestore done, apart.names.usersRestore done⟩
  | create username password =>
      simp only [UserDatabase.perform] at done
      cases created : database.createUser username password with
      | none =>
          rw [created] at done
          cases done
          exact apart
      | some found =>
          rw [created] at done
          cases done
          exact ⟨apart.numbered.create created, apart.names.create created⟩
  | delete serial => exact ⟨apart.numbered.delete done, apart.names.delete done⟩

theorem Apart.run (apart : database.Apart) {actions : List UserListAction}
    (arrives : FallibleRun.run UserDatabase.perform database actions = .ok after) :
    after.Apart := by
  induction actions generalizing database with
  | nil =>
      cases arrives
      exact apart
  | cons action actions induction =>
      obtain ⟨next, done, rest⟩ := FallibleRun.run_cons_ok_iff.mp arrives
      exact induction (apart.perform done) rest

/-- Deletion takes one record out of its place. -/
theorem deleteUser_eq (numbered : Numbered database) {before later : List User} {target : User}
    (split : database.userList = before ++ target :: later) :
    ∃ after, database.deleteUser target.serial = .ok after ∧ after.userList = before ++ later := by
  have listed : database.userList.any (fun user => user.serial = target.serial) = true :=
    List.any_eq_true.mpr ⟨target, by simp [split], by simp⟩
  have others : ∀ user ∈ before, ¬user.serial = target.serial := by
    have distinct := numbered.distinct
    rw [split, List.map_append, List.nodup_append] at distinct
    intro user member same
    exact distinct.2.2 _ (List.mem_map_of_mem member) _ (by simp) same
  unfold deleteUser
  rw [if_pos listed]
  refine ⟨_, rfl, ?_⟩
  show database.userList.eraseP _ = before ++ later
  rw [split, List.eraseP_append_right _ (by simpa using others)]
  simp

/-- After any sequence of restores, creations and deletions, names are unique, every user is found
by name, and an operation touches its target only. -/
theorem userList_operations (actions : List UserListAction) (database : UserDatabase)
    (arrives : FallibleRun.run perform empty actions = .ok database) :
    (database.userList.Pairwise fun user other =>
      Text.strcasecmp user.name other.name ≠ .eq) ∧
    (∀ user ∈ database.userList, ∀ username, Text.strcasecmp username user.name = .eq →
      database.findUser username = some user) ∧
    (∀ username password, database.createUser username password = none ↔
      ∃ user ∈ database.userList, Text.strcasecmp username user.name = .eq) ∧
    (∀ username password after newuser,
      database.createUser username password = some (after, newuser) →
        after.userList = newuser :: database.userList ∧ newuser.name = username) ∧
    ∀ before target later, database.userList = before ++ target :: later →
      ∃ after, database.deleteUser target.serial = .ok after ∧
        after.userList = before ++ later := by
  have apart : database.Apart := Apart.run ⟨Numbered.empty, List.nodup_nil⟩ arrives
  refine ⟨?_, fun user listed username same => apart.names.findUser_eq listed same,
    createUser_eq_none_iff database, fun username password after newuser created => ?_,
    fun before target later split => deleteUser_eq apart.numbered split⟩
  · have names := apart.names
    unfold NamesApart at names
    simpa [List.nodup_iff_pairwise_ne, List.pairwise_map] using names
  · obtain ⟨list, name, -⟩ := createUser_eq_some created
    exact ⟨list, name⟩

/-- A user is restored, another one is created, and the first name is taken in any case. -/
def sampleActions : List UserListAction :=
  [.restore [⟨some (ascii "adam"), some [], some (ascii "user"), none, [], []⟩] [],
    .create (ascii "eve") [], .create (ascii "ADAM") []]

theorem userList_operations_sample :
    ∃ database, FallibleRun.run perform empty sampleActions = .ok database ∧
      database.userList.map (·.name) = [ascii "eve", ascii "adam"] ∧
      (database.userList.Pairwise fun user other =>
        Text.strcasecmp user.name other.name ≠ .eq) ∧
      ∀ user ∈ database.userList, ∀ username, Text.strcasecmp username user.name = .eq →
        database.findUser username = some user := by
  refine ⟨_, rfl, rfl, ?_⟩
  obtain ⟨names, found, -⟩ := userList_operations sampleActions _ rfl
  exact ⟨names, found⟩

end UserDatabase

end Pianod
