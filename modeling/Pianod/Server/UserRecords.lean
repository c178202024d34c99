import Pianod.Server.UserRestore

/-!
# Telling users apart

Every record gets a serial number of its own when it is created, and keeps it for as long as it
lives.  The record of the start script has one too, lower than all the others.
-/

namespace Pianod

open Foundation

/-- Users are told apart by their serial numbers, and the start script's user by the lowest; that
user has influence. -/
structure Numbered (users : UserDatabase) : Prop where
  distinct : (users.userList.map (·.serial)).Nodup
  issued : ∀ serial ∈ users.userList.map (·.serial), serial < users.nextSerial
  apart : ∀ serial ∈ users.userList.map (·.serial), users.startscript.serial < serial
  startscript : users.startscript.serial < users.nextSerial
  influence : users.startscript.privileges .influence = true

/-- The same records are there; whatever is written in them, the start script's user keeps the
influence. -/
structure SameRecords (before after : UserDatabase) : Prop where
  serials : after.userList.map (·.serial) = before.userList.map (·.serial)
  nextSerial : after.nextSerial = before.nextSerial
  startscript : after.startscript.serial = before.startscript.serial
  influence : after.startscript.privileges .influence = before.startscript.privileges .influence

/-- What can happen to the user data: records are rewritten, created or deleted. -/
inductive UsersRevised (before : UserDatabase) : UserDatabase → Prop where
  | rewritten {after : UserDatabase} (same : SameRecords before after) : UsersRevised before after
  | created {after : UserDatabase} {newuser : User} {name password : Text}
      (create : before.createUser name password = some (after, newuser)) : UsersRevised before after
  | deleted {after : UserDatabase} {serial : Nat}
      (delete : before.deleteUser serial = .ok after) : UsersRevised before after

/-! ## Edits -/

/-- What an operation writes into a record; the start script's user keeps the influence. -/
inductive RecordEdit (ref : UserRef) : (User → User) → Prop where
  | rank (rank : UserRank) : RecordEdit ref fun user => { user with rank := rank }
  | password (password : Text) : RecordEdit ref fun user => { user with password := password }
  | privilege (privilege : Privilege) (setting : Bool)
      (spares : ref = .startscript → privilege ≠ .influence) :
      RecordEdit ref fun user =>
        { user with privileges := Function.update user.privileges privilege setting }
  | preferences (preferences : StationPreferences) :
      RecordEdit ref fun user => { user with stationPreferences := some preferences }
  | account (credentials : Credentials) {username password enciphered : Text}
      (done : lamerCipher username password = .ok enciphered) :
      RecordEdit ref fun user =>
        { user with pandoraCredentials := { credentials with password := some enciphered } }

/-- Records are edited in their places, one edit after another. -/
inductive Edited (before : UserDatabase) : UserDatabase → Prop where
  | refl : Edited before before
  | edit {middle : UserDatabase} (earlier : Edited before middle) (ref : UserRef)
      {change : User → User} (edits : RecordEdit ref change) :
      Edited before (middle.modifyUser ref change)
  | clear {middle : UserDatabase} (earlier : Edited before middle) (privilege : Privilege) :
      Edited before (middle.clearPrivilege privilege)
  | settings {middle : UserDatabase} (earlier : Edited before middle) (dirty : Bool)
      (visitorRank : UserRank) (ownershipRule : ManagerRule) :
      Edited before { middle with
        dirty := dirty
        visitorRank := visitorRank
        ownershipRule := ownershipRule }

namespace Edited

variable {users after : UserDatabase}

theorem trans {first second third : UserDatabase} (one : Edited first second)
    (two : Edited second third) : Edited first third := by
  induction two with
  | refl => exact one
  | edit _ ref edits ih => exact ih.edit ref edits
  | clear _ privilege ih => exact ih.clear privilege
  | settings _ dirty visitorRank ownershipRule ih =>
      exact ih.settings dirty visitorRank ownershipRule

theorem setRank {ref : UserRef} {rank : UserRank} (ranked : users.setRank ref rank = .ok after) :
    Edited users after := by
  unfold UserDatabase.setRank at ranked
  split at ranked
  · cases ranked
  · cases ranked
    exact (refl.edit ref (.rank rank)).settings _ _ _

theorem setUserPassword (users : UserDatabase) (ref : UserRef) (password : Text) :
    Edited users (users.setUserPassword ref password) :=
  (refl.edit ref (.password password)).settings true _ _

theorem changePassword {crypt : Text → Text → Text} {ref : UserRef} {old encrypted : Text}
    (changed : users.changePassword crypt ref old encrypted = .ok after) :
    Edited users after := by
  unfold UserDatabase.changePassword at changed
  split at changed
  · cases changed
  · split at changed
    · cases changed
    · cases changed
      exact refl
    · split at changed
      · cases changed
        exact setUserPassword users ref encrypted
      · cases changed

theorem setPrivilege {number : Nat} {privilege : Privilege} {setting : Bool}
    (set : users.setPrivilege (.listed number) privilege setting = .ok after) :
    Edited users after := by
  unfold UserDatabase.setPrivilege at set
  split at set
  · cases set
  · cases set
  · cases set
    exact (refl.edit (.listed number) (.privilege privilege setting fun same =>
      nomatch same)).settings _ _ _

theorem setPrivileges {privilege : Privilege} {setting : Bool} {names : List Text}
    (set : users.setPrivileges privilege setting names = .ok after) : Edited users after := by
  induction names generalizing users with
  | nil =>
      cases set
      exact refl
  | cons name names ih =>
      unfold UserDatabase.setPrivileges at set
      split at set
      · cases set
      · split at set
        · cases set
        · rename_i moved
          exact (setPrivilege moved).trans (ih set)

theorem setStationRating {ref : UserRef} {stationId : Text} {rating : StationRating}
    (rated : users.setStationRating ref stationId rating = .ok after) :
    Edited users after := by
  unfold UserDatabase.setStationRating at rated
  split at rated
  · cases rated
  · split at rated
    · cases rated
      exact refl
    · rename_i preferences _
      cases rated
      exact (refl.edit ref (.preferences preferences)).settings true _ _

/-- Making a user the manager gives no influence and takes none. -/
theorem setOwnershipRule {rule : ManagerRule} {manager : Option UserRef}
    (ruled : users.setOwnershipRule rule manager = .ok after) : Edited users after := by
  unfold UserDatabase.setOwnershipRule at ruled
  dsimp only at ruled
  split at ruled
  · split at ruled
    · cases ruled
    · rename_i ref
      split at ruled
      · cases ruled
      · cases ruled
        exact ((refl.clear .manager).edit ref (.privilege .manager true fun _ same =>
          nomatch same)).settings _ _ rule
  · cases ruled
    exact (refl.clear .manager).settings _ _ rule

theorem savePandoraCredentials {credentials : Credentials}
    (saved : users.savePandoraCredentials credentials = .ok after) : Edited users after := by
  unfold UserDatabase.savePandoraCredentials at saved
  split at saved
  · cases saved
  · cases saved
  · split at saved
    · cases saved
      exact refl
    · rename_i creator _
      split at saved
      · cases saved
      · cases saved
      · rename_i done _
        cases saved
        exact (refl.edit creator (.account credentials done)).settings true _ _

theorem recreateStationPreferences {ref : UserRef} {elements : List RatingElement}
    (restored : users.recreateStationPreferences ref elements = .ok after) :
    Edited users after := by
  induction elements generalizing users with
  | nil =>
      cases restored
      exact refl
  | cons element elements ih =>
      unfold UserDatabase.recreateStationPreferences at restored
      split at restored
      · split at restored
        · cases restored
        · split at restored
          · cases restored
          · rename_i rated
            exact (setStationRating rated).trans (ih restored)
      · exact ih restored

end Edited

/-! ## Rewriting records -/

namespace SameRecords

theorem refl (users : UserDatabase) : SameRecords users users := ⟨rfl, rfl, rfl, rfl⟩

theorem trans {first second third : UserDatabase} (one : SameRecords first second)
    (two : SameRecords second third) : SameRecords first third :=
  ⟨two.serials.trans one.serials, two.nextSerial.trans one.nextSerial,
    two.startscript.trans one.startscript, two.influence.trans one.influence⟩

/-- A listed user may lose the influence. -/
theorem modifyListed (users : UserDatabase) (number : Nat) {change : User → User}
    (serial : ∀ user, (change user).serial = user.serial) :
    SameRecords users (users.modifyUser (.listed number) change) :=
  ⟨map_modifyFirst fun user _ => serial user, rfl, rfl, rfl⟩

theorem modifyUser (users : UserDatabase) {ref : UserRef} {change : User → User}
    (edits : RecordEdit ref change) : SameRecords users (users.modifyUser ref change) := by
  have serial (user : User) : (change user).serial = user.serial := by
    cases edits <;> rfl
  cases ref with
  | listed number => exact modifyListed users number serial
  | startscript =>
      refine ⟨rfl, rfl, serial _, ?_⟩
      cases edits with
      | rank => rfl
      | password => rfl
      | privilege privilege setting spares =>
          exact Function.update_of_ne (Ne.symm (spares rfl)) _ _
      | preferences => rfl
      | account => rfl

/-- Edits leave the records in their places. -/
theorem of_edited {users after : UserDatabase} (edited : Edited users after) :
    SameRecords users after := by
  induction edited with
  | refl => exact refl users
  | edit _ ref edits ih => exact ih.trans (modifyUser _ edits)
  | clear _ privilege ih =>
      refine ih.trans ⟨?_, rfl, rfl, rfl⟩
      simp [UserDatabase.clearPrivilege, Function.comp_def]
  | settings _ _ _ _ ih => exact ih.trans ⟨rfl, rfl, rfl, rfl⟩

/-- Logging in rewrites records only. -/
theorem setPandoraUser {state switched : ServerState} {login : LoginAttempt}
    (done : state.setPandoraUser login = .ok switched) :
    SameRecords state.users switched.users := by
  unfold ServerState.setPandoraUser at done
  split at done
  · cases done
  · cases done
  · split at done
    · cases done
    · split at done
      · cases done
        exact refl _
      · cases done
        exact refl _
      · split at done
        · cases done
        · rename_i ruled
          split at done
          · cases done
          · rename_i saved
            cases done
            exact of_edited ((Edited.setOwnershipRule ruled).trans (.savePandoraCredentials saved))

end SameRecords

/-! ## Numbers stay apart -/

namespace Numbered

variable {users after : UserDatabase}

theorem rewrite (numbered : Numbered users) (same : SameRecords users after) : Numbered after := by
  obtain ⟨serials, nextSerial, startscript, influence⟩ := same
  constructor
  · rw [serials]
    exact numbered.distinct
  · rw [serials, nextSerial]
    exact numbered.issued
  · rw [serials, startscript]
    exact numbered.apart
  · rw [startscript, nextSerial]
    exact numbered.startscript
  · rw [influence]
    exact numbered.influence

/-- A new record gets a number that none had before. -/
theorem create (numbered : Numbered users) {newuser : User} {name password : Text}
    (created : users.createUser name password = some (after, newuser)) : Numbered after := by
  unfold UserDatabase.createUser at created
  split at created
  · cases created
  · cases created
    constructor
    · rw [List.map_cons, List.nodup_cons]
      exact ⟨fun member => Nat.lt_irrefl _ (numbered.issued _ member), numbered.distinct⟩
    · rw [List.map_cons, List.forall_mem_cons]
      exact ⟨Nat.lt_succ_self _, fun serial member =>
        Nat.lt_succ_of_lt (numbered.issued serial member)⟩
    · rw [List.map_cons, List.forall_mem_cons]
      exact ⟨numbered.startscript, numbered.apart⟩
    · exact Nat.lt_succ_of_lt numbered.startscript
    · exact numbered.influence

theorem delete (numbered : Numbered users) {serial : Nat}
    (deleted : users.deleteUser serial = .ok after) : Numbered after := by
  unfold UserDatabase.deleteUser at deleted
  split at deleted
  · cases deleted
    have remaining : ((users.userList.eraseP fun user => user.serial = serial).map
        (·.serial)).Sublist (users.userList.map (·.serial)) := List.eraseP_sublist.map _
    exact ⟨numbered.distinct.sublist remaining,
      fun other member => numbered.issued other (remaining.subset member),
      fun other member => numbered.apart other (remaining.subset member),
      numbered.startscript, numbered.influence⟩
  · cases deleted

theorem revise (numbered : Numbered users) (revised : UsersRevised users after) :
    Numbered after := by
  cases revised with
  | rewritten same => exact numbered.rewrite same
  | created create => exact numbered.create create
  | deleted delete => exact numbered.delete delete

/-! ## The user file -/

theorem empty : Numbered .empty :=
  ⟨List.nodup_nil, fun _ member => (nomatch member), fun _ member => (nomatch member),
    Nat.zero_lt_one, rfl⟩

theorem recreateUser (numbered : Numbered users) {element : UserElement}
    (restored : users.recreateUser element = .ok after) : Numbered after := by
  unfold UserDatabase.recreateUser at restored
  split at restored
  · split at restored
    · cases restored
      exact numbered
    · rename_i created
      split at restored
      · cases restored
      · have rated := SameRecords.of_edited (.recreateStationPreferences restored)
        refine (numbered.create created).rewrite (.trans ?_ rated)
        exact .modifyListed _ _ fun _ => rfl
  · cases restored
    exact numbered

theorem recreateUsers (numbered : Numbered users) {file : List UserElement}
    (restored : users.recreateUsers file = .ok after) : Numbered after := by
  induction file generalizing users with
  | nil =>
      cases restored
      exact numbered
  | cons element file ih =>
      unfold UserDatabase.recreateUsers at restored
      split at restored
      · cases restored
      · rename_i first
        exact ih (numbered.recreateUser first) restored

/-- Whatever the user file says, the users are told apart. -/
theorem usersRestore (numbered : Numbered users) {file : List UserElement} {adminPassword : Text}
    (restored : users.usersRestore file adminPassword = .ok after) : Numbered after := by
  unfold UserDatabase.usersRestore at restored
  split at restored
  · cases restored
  · rename_i recreated
    have numbered := numbered.recreateUsers recreated
    split at restored
    · split at restored
      · cases restored
        exact numbered.rewrite ⟨rfl, rfl, rfl, rfl⟩
      · rename_i created admin create
        cases restored
        have ranked := @SameRecords.modifyListed created admin.serial
          (fun user => { user with rank := .administrator }) fun _ => rfl
        exact (numbered.create create).rewrite
          ⟨ranked.serials, ranked.nextSerial, ranked.startscript, ranked.influence⟩
    · cases restored
      exact numbered.rewrite ⟨rfl, rfl, rfl, rfl⟩

/-- When the server starts, the users are told apart. -/
theorem restore {file : List UserElement} {adminPassword : Text}
    (restored : UserDatabase.empty.usersRestore file adminPassword = .ok after) :
    Numbered after :=
  empty.usersRestore restored

/-- A pointer to a listed user leads to that user's record. -/
theorem user?_listed (numbered : Numbered users) {user : User} (member : user ∈ users.userList) :
    users.user? (.listed user.serial) = some user := by
  have known : (users.userList.find? fun other => other.serial = user.serial).isSome :=
    List.find?_isSome.mpr ⟨user, member, decide_eq_true rfl⟩
  obtain ⟨found, same⟩ := Option.isSome_iff_exists.mp known
  have serial : found.serial = user.serial := by simpa using List.find?_some same
  have there := List.mem_of_find?_eq_some same
  rwa [List.inj_on_of_nodup_map numbered.distinct there member serial] at same

theorem startscript_unlisted (numbered : Numbered users) :
    users.startscript ∉ users.userList := fun member =>
  Nat.lt_irrefl _ (numbered.apart _ (List.mem_map_of_mem member))

end Numbered

/-- Only pointers to the start script's user and to listed users lead anywhere. -/
theorem user?_eq_some {users : UserDatabase} {ref : UserRef} {user : User}
    (found : users.user? ref = some user) :
    ref = .startscript ∧ user = users.startscript ∨
      ref = .listed user.serial ∧ user ∈ users.userList := by
  cases ref with
  | startscript => exact .inl ⟨rfl, (Option.some.inj found).symm⟩
  | listed serial =>
      have same : user.serial = serial := by simpa using List.find?_some found
      exact .inr ⟨by rw [same], List.mem_of_find?_eq_some found⟩

end Pianod
