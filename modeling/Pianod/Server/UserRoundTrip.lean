import Pianod.Server.CipherChecksum
import Pianod.Server.RatingArrays
import Pianod.Server.UserCommands
import Pianod.Server.UserDocument
import Pianod.Server.UserNames

/-!
# Reading back the user list

The elements of the user file are read into the users that were written, in reverse order.  That
needs names that are apart and saved accounts that are complete; the commands see to both.
-/

namespace Pianod

open Foundation

/-- A restored user agrees with the one that was written in all that is to be kept. -/
structure Kept (user restored : User) : Prop where
  name : restored.name = user.name
  password : restored.password = user.password
  rank : restored.rank = user.rank
  granted : ∀ privilege : Privilege, privilege.persistable = true →
    restored.privileges privilege = user.privileges privilege
  account : restored.persistent.account = user.persistent.account
  rating : ∀ stationId, getStationRating restored.stationPreferences stationId =
    getStationRating user.stationPreferences stationId

/-! ## Privileges -/

theorem recreatePrivilege_entry (privileges : Privilege → Bool) (privilege : Privilege)
    (name : Text) (setting : Bool)
    (entry : getPrivilegeByName name =
      some ⟨name, privilege, privilege.initialValue, true⟩) :
    UserDatabase.recreatePrivilege privileges
      ⟨some name, some (if setting then ascii "true" else ascii "false")⟩ =
        Function.update privileges privilege setting := by
  have value : decide (Text.strcmp (if setting then ascii "true" else ascii "false")
      (ascii "true") = .eq) = setting := by
    cases setting <;> decide
  simp only [UserDatabase.recreatePrivilege, entry, if_true, value]

/-- The persistable privileges are restored. -/
theorem restored_privileges (granted : Privilege → Bool) {privilege : Privilege}
    (persistable : privilege.persistable = true) :
    (readPrivileges granted).foldl UserDatabase.recreatePrivilege Privilege.initialValue
      privilege = granted privilege := by
  have written : readPrivileges granted =
      [⟨some (ascii "service"), some (if granted .service then ascii "true" else ascii "false")⟩,
        ⟨some (ascii "influence"),
          some (if granted .influence then ascii "true" else ascii "false")⟩,
        ⟨some (ascii "tuner"), some (if granted .tuner then ascii "true" else ascii "false")⟩,
        ⟨some (ascii "present"),
          some (if granted .present then ascii "true" else ascii "false")⟩] := rfl
  rw [written]
  simp only [List.foldl_cons, List.foldl_nil]
  rw [recreatePrivilege_entry _ .present _ _ rfl, recreatePrivilege_entry _ .tuner _ _ rfl,
    recreatePrivilege_entry _ .influence _ _ rfl, recreatePrivilege_entry _ .service _ _ rfl]
  cases privilege with
  | manager => cases persistable
  | service => rfl
  | influence => rfl
  | tuner => rfl
  | present => rfl

/-! ## Ratings -/

namespace UserDatabase

variable {database after : UserDatabase}

/-- The head of the list is found by its own number. -/
theorem setStationRating_head {user : User} {others : List User}
    (list : database.userList = user :: others) (stationId : Text) (rating : StationRating) :
    ∃ after, database.setStationRating (.listed user.serial) stationId rating = .ok after ∧
      after.userList = { user with
        stationPreferences := (changedRatings user.stationPreferences stationId rating).or
          user.stationPreferences } :: others := by
  have found : database.user? (.listed user.serial) = some user := by
    simp [user?, list]
  unfold setStationRating
  rw [found]
  dsimp only
  cases changed : changedRatings user.stationPreferences stationId rating with
  | none => exact ⟨database, rfl, list⟩
  | some preferences =>
      refine ⟨_, rfl, ?_⟩
      simp [setStationPreferences, modifyUser, list, modifyFirst]

/-- Recorded opinions are restored one by one. -/
theorem recreateStationPreferences_records {user : User} {others : List User}
    (list : database.userList = user :: others) {records : List RatingRecord}
    (distinct : (records.map RatingRecord.stationId).Nodup) :
    ∃ after preferences,
      database.recreateStationPreferences (.listed user.serial) (records.map fun record =>
        ⟨some record.stationId, some (stationRatingName record.rating)⟩) = .ok after ∧
      after.userList = { user with stationPreferences := preferences } :: others ∧
      (∀ record ∈ records, getStationRating preferences record.stationId = record.rating) ∧
      ∀ stationId, (∀ record ∈ records, record.stationId ≠ stationId) →
        getStationRating preferences stationId =
          getStationRating user.stationPreferences stationId := by
  induction records generalizing database user with
  | nil => exact ⟨database, user.stationPreferences, rfl, list, by simp, fun _ _ => rfl⟩
  | cons record records ih =>
      obtain ⟨rated, set, ratedList⟩ :=
        setStationRating_head list record.stationId record.rating
      rw [List.map_cons, List.nodup_cons] at distinct
      obtain ⟨after, preferences, restored, final, recorded, kept⟩ := ih ratedList distinct.2
      refine ⟨after, preferences, ?_, final, ?_, ?_⟩
      · rw [List.map_cons, recreateStationPreferences]
        simp only [getStationRatingByName_name, set]
        exact restored
      · rw [List.forall_mem_cons]
        refine ⟨?_, recorded⟩
        rw [kept record.stationId fun other later same =>
          distinct.1 (same ▸ List.mem_map_of_mem later), getStationRating_changed, if_pos rfl]
      · intro stationId missing
        rw [List.forall_mem_cons] at missing
        rw [kept stationId missing.2, getStationRating_changed, if_neg (Ne.symm missing.1)]

end UserDatabase

/-- The opinions that are written determine every rating. -/
theorem getStationRating_opinions (preferences : Option StationPreferences)
    {restored : Option StationPreferences}
    (recorded : ∀ record ∈ (preferences.map opinions).getD [],
      getStationRating restored record.stationId = record.rating)
    (neutral : ∀ stationId, (∀ record ∈ (preferences.map opinions).getD [],
      record.stationId ≠ stationId) → getStationRating restored stationId = .neutral)
    (stationId : Text) :
    getStationRating restored stationId = getStationRating preferences stationId := by
  cases preferences with
  | none => exact neutral stationId (by simp)
  | some preferences =>
      simp only [Option.map_some, Option.getD_some] at recorded neutral
      by_cases opinion : getStationRating (some preferences) stationId = .neutral
      · rw [opinion]
        refine neutral stationId fun record member same => ?_
        obtain ⟨stored, notNeutral⟩ := List.mem_filter.mp member
        have rated := @StationPreferences.getStationRating_of_mem preferences record.stationId
          record.rating stored
        rw [same, opinion] at rated
        exact absurd rated.symm (of_decide_eq_true notNeutral)
      · have stored := (getStationRating_eq_iff opinion).mp rfl
        exact recorded ⟨stationId, _⟩ (List.mem_filter.mpr ⟨stored, decide_eq_true opinion⟩)

private theorem nodup_opinions (preferences : Option StationPreferences) :
    (((preferences.map opinions).getD []).map RatingRecord.stationId).Nodup := by
  cases preferences with
  | none => exact List.nodup_nil
  | some preferences =>
      have distinct : (preferences.ratings.map RatingRecord.stationId).Nodup := by
        refine preferences.sorted.imp ?_
        rintro before after less rfl
        rw [Text.strcmp_eq_iff.mpr rfl] at less
        cases less
      exact distinct.sublist (List.filter_sublist.map _)

/-! ## Users -/

namespace UserDatabase

variable {database : UserDatabase}

private theorem recreateAccount_readAccount {credentials : Credentials}
    (saved : AccountSaved credentials) (owner : UserRef) :
    let restored := ((readAccount credentials).bind (recreateAccount owner)).getD .destroyed
    (restored.username.map fun username =>
        (username, restored.password, restored.managerRule)) =
      credentials.username.map fun username =>
        (username, credentials.password, credentials.managerRule) := by
  unfold readAccount
  cases named : credentials.username with
  | none => rfl
  | some username =>
      obtain ⟨password, held, -⟩ := saved username named
      simp [held, recreateAccount, getManagerRuleByName_ownershipName]

/-- A user whose name is free is restored at the head of the list. -/
theorem recreateUser_readUser {user : User} (saved : AccountSaved user.pandoraCredentials)
    (free : database.findUser user.name = none) :
    ∃ after restored, database.recreateUser (readUser user) = .ok after ∧
      after.userList = restored :: database.userList ∧ Kept user restored := by
  let newuser : User :=
    { serial := database.nextSerial
      name := user.name
      password := user.password
      rank := .none
      privileges := Privilege.initialValue
      pandoraCredentials := .destroyed
      stationPreferences := none }
  let created : UserDatabase :=
    { database with
      userList := newuser :: database.userList
      dirty := true
      nextSerial := database.nextSerial + 1 }
  have create : database.createUser user.name user.password = some (created, newuser) := by
    rw [createUser, free]
  let change (user' : User) : User :=
    { user' with
      rank := user.rank
      pandoraCredentials := ((readAccount user.pandoraCredentials).bind
        (recreateAccount (.listed newuser.serial))).getD user'.pandoraCredentials
      privileges := (readPrivileges user.privileges).foldl recreatePrivilege user'.privileges }
  have list : (created.modifyUser (.listed newuser.serial) change).userList =
      change newuser :: database.userList := by
    simp [modifyUser, modifyFirst, created]
  obtain ⟨after, preferences, done, final, recorded, neutral⟩ :=
    recreateStationPreferences_records list (nodup_opinions user.stationPreferences)
  refine ⟨after, { change newuser with stationPreferences := preferences }, ?_, final,
    ⟨rfl, rfl, rfl, fun privilege => restored_privileges user.privileges,
      recreateAccount_readAccount saved _,
      getStationRating_opinions user.stationPreferences recorded neutral⟩⟩
  unfold recreateUser
  simp only [readUser, create, getRankByName_levelName]
  exact done

/-- Users whose names are free and apart are restored in reverse order. -/
theorem recreateUsers_readUsers {users : List User}
    (saved : ∀ user ∈ users, AccountSaved user.pandoraCredentials)
    (apart : ((users.map fun user => Text.foldCase user.name) ++
      database.userList.map fun user => Text.foldCase user.name).Nodup) :
    ∃ after restored, database.recreateUsers (users.map readUser) = .ok after ∧
      after.userList = restored.reverse ++ database.userList ∧
      List.Forall₂ Kept users restored := by
  induction users generalizing database with
  | nil => exact ⟨database, [], rfl, rfl, .nil⟩
  | cons user users ih =>
      have free : database.findUser user.name = none := by
        rw [findUser_eq_none_iff]
        intro taken
        rw [List.map_cons, List.cons_append, List.nodup_cons] at apart
        exact apart.1 (List.mem_append_right _ taken)
      obtain ⟨next, first, read, list, kept⟩ :=
        recreateUser_readUser (saved user List.mem_cons_self) free
      have still : ((users.map fun user => Text.foldCase user.name) ++
          next.userList.map fun user => Text.foldCase user.name).Nodup := by
        rw [list, List.map_cons, kept.name]
        exact List.nodup_middle.mpr apart
      obtain ⟨after, restored, rest, final, others⟩ :=
        ih (fun other later => saved other (List.mem_cons_of_mem _ later)) still
      refine ⟨after, first :: restored, ?_, ?_, .cons kept others⟩
      · rw [List.map_cons, recreateUsers, read]
        exact rest
      · rw [final, list, List.reverse_cons, List.append_assoc]
        rfl

end UserDatabase

/-- What is written of a list is read back as the same users, in some order. -/
def RoundTrips (ezxmlParseFile : Text → Option XmlElement) (adminPassword : Text)
    (users : List User) : Prop :=
  ∃ text restored order,
    writeUsers users = .ok text ∧
    UserDatabase.empty.usersRestore (userElements (ezxmlParseFile text)) adminPassword =
      .ok restored ∧
    order.Perm users ∧ List.Forall₂ Kept order restored.userList

/-- The reader reads a well-formed document as its elements with their values decoded. -/
def Reads (ezxmlParseFile : Text → Option XmlElement) (root : XmlContent) : Prop :=
  root.WellFormed → ezxmlParseFile root.document = (root.elements ezxmlDecode).head?

private theorem roundTrips_of_saved {ezxmlParseFile : Text → Option XmlElement} {users : List User}
    (nonempty : users ≠ []) (apart : (users.map fun user => Text.foldCase user.name).Nodup)
    (saved : ∀ user ∈ users, AccountSaved user.pandoraCredentials)
    (storable : ∀ user ∈ users, user.Storable)
    (reads : Reads ezxmlParseFile (usersContent users)) (adminPassword : Text) :
    RoundTrips ezxmlParseFile adminPassword users := by
  obtain ⟨after, restored, read, list, kept⟩ :=
    @UserDatabase.recreateUsers_readUsers UserDatabase.empty users saved
      (by simpa [UserDatabase.empty] using apart)
  have parsed : ezxmlParseFile (usersContent users).document = some (usersXml users) := by
    rw [reads (wellFormed_users fun user member _ recorded =>
      ((storable user member).opinions recorded).2.2), elements_users saved storable]
    rfl
  have listed : after.userList ≠ [] := by
    obtain ⟨user, users, rfl⟩ := List.exists_cons_of_ne_nil nonempty
    cases kept with
    | cons _ _ => simp [list]
  refine ⟨_, { after with dirty := false }, users.reverse, writeUsers_eq saved, ?_,
    List.reverse_perm users, ?_⟩
  · rw [parsed, userElements_usersXml, UserDatabase.usersRestore, read]
    exact if_neg listed
  · rw [list, UserDatabase.empty, List.append_nil]
    exact List.rel_reverse kept

/-! ## What the commands see to -/

/-- Enciphered text has no control characters. -/
theorem cipherBytes_printable {key : UInt32} {item output : Text}
    (enciphered : cipherBytes key item = .ok output) : ∀ byte ∈ output, 0x20 ≤ byte := by
  induction item generalizing key output with
  | nil =>
      cases enciphered
      exact fun byte member => nomatch member
  | cons byte item ih =>
      unfold cipherBytes at enciphered
      split at enciphered
      · cases enciphered
      · rename_i bits consumed
        obtain ⟨rest, done, rfl⟩ := FallibleRun.map_ok_iff.mp enciphered
        rw [List.forall_mem_cons]
        refine ⟨(cipherBits_isSome_iff _).mp ?_, ih done⟩
        rw [cipherBits_ciphered consumed]
        rfl

private theorem plainSpaces_of_printable {text : Text} (printable : ∀ byte ∈ text, 0x20 ≤ byte) :
    PlainSpaces text := by
  intro byte member space
  have lower := printable byte member
  simp only [isspace, Bool.or_eq_true, beq_iff_eq, Bool.and_eq_true, decide_eq_true_eq] at space
  rcases space with space | ⟨-, upper⟩
  · exact space
  · exact absurd (UInt8.le_trans lower upper) (by decide)

namespace UserDatabase

variable {database after : UserDatabase}

/-- All saved accounts are complete. -/
def AccountsSaved (database : UserDatabase) : Prop :=
  ∀ user ∈ database.userList, AccountSaved user.pandoraCredentials

theorem edited_changePrivileges {privilege : Text} {setting : Bool} {names : List Text}
    (change : database.changePrivileges privilege setting names = .ok after) :
    Edited database after := by
  unfold changePrivileges at change
  split at change
  · split at change
    · cases change
    · exact .setPrivileges change
  · cases change
    exact .refl

theorem AccountsSaved.modifyUser (saved : database.AccountsSaved) (ref : UserRef)
    {change : User → User} (keeps : ∀ user, AccountSaved user.pandoraCredentials →
      AccountSaved (change user).pandoraCredentials) :
    (database.modifyUser ref change).AccountsSaved := by
  cases ref with
  | startscript => exact saved
  | listed serial =>
      intro user member
      rcases mem_modifyFirst member with old | ⟨found, there, -, rfl⟩
      · exact saved user old
      · exact keeps found (saved found there)

/-- Saved accounts stay complete, for what is saved is enciphered. -/
theorem AccountsSaved.edited (saved : database.AccountsSaved) (edited : Edited database after) :
    after.AccountsSaved := by
  induction edited with
  | refl => exact saved
  | edit _ ref edits ih =>
      refine ih.modifyUser ref fun user before => ?_
      cases edits with
      | rank => exact before
      | password => exact before
      | privilege => exact before
      | preferences => exact before
      | account credentials done =>
          exact fun _ _ => ⟨_, rfl, plainSpaces_of_printable (cipherBytes_printable done)⟩
  | clear _ privilege ih =>
      intro user member
      obtain ⟨original, there, rfl⟩ := List.mem_map.mp member
      exact ih original there
  | settings _ _ _ _ ih => exact ih

/-- A list that survives being written and read, as far as the commands can see to it. -/
structure Restorable (database : UserDatabase) : Prop where
  names : database.NamesApart
  saved : database.AccountsSaved

namespace Restorable

theorem edit (restorable : database.Restorable) (edited : Edited database after) :
    after.Restorable :=
  ⟨namesApart_of_sameNames (sameNames_of_edited edited) restorable.names,
    restorable.saved.edited edited⟩

/-- A record is written over, under its name and with an account that is as complete. -/
theorem modifyUser (restorable : database.Restorable) (ref : UserRef) {change : User → User}
    (name : ∀ user, (change user).name = user.name)
    (keeps : ∀ user, AccountSaved user.pandoraCredentials →
      AccountSaved (change user).pandoraCredentials) :
    (database.modifyUser ref change).Restorable :=
  ⟨namesApart_of_sameNames (sameNames_modifyUser database ref name) restorable.names,
    restorable.saved.modifyUser ref keeps⟩

theorem create (restorable : database.Restorable) {username password : Text} {newuser : User}
    (created : database.createUser username password = some (after, newuser)) :
    after.Restorable := by
  refine ⟨restorable.names.create created, fun user member => ?_⟩
  unfold createUser at created
  split at created
  · cases created
  · cases created
    rcases List.mem_cons.mp member with rfl | old
    · exact fun _ named => nomatch named
    · exact restorable.saved user old

theorem delete (restorable : database.Restorable) {serial : Nat}
    (deleted : database.deleteUser serial = .ok after) : after.Restorable := by
  refine ⟨restorable.names.delete deleted, fun user member => ?_⟩
  unfold deleteUser at deleted
  split at deleted
  · cases deleted
    exact restorable.saved user (List.mem_of_mem_eraseP member)
  · cases deleted

theorem execute (restorable : database.Restorable) {crypt : Text → Text → Text}
    {command : UserCommand} (executed : database.execute crypt command = .ok after) :
    after.Restorable := by
  cases command with
  | create rank name encrypted =>
      simp only [UserDatabase.execute] at executed
      split at executed
      · cases executed
        exact restorable
      · rename_i created
        split at executed
        · cases executed
        · exact (restorable.create created).edit (.setRank executed)
  | setUserPassword name encrypted =>
      simp only [UserDatabase.execute] at executed
      split at executed
      · cases executed
        exact restorable
      · cases executed
        exact restorable.edit (.setUserPassword database _ encrypted)
  | setMyPassword user old encrypted => exact restorable.edit (.changePassword executed)
  | setUserRank name rank =>
      simp only [UserDatabase.execute] at executed
      split at executed
      · cases executed
        exact restorable
      · split at executed
        · cases executed
        · exact restorable.edit (.setRank executed)
  | delete name online =>
      simp only [UserDatabase.execute] at executed
      split at executed
      · cases executed
        exact restorable
      · split at executed
        · cases executed
          exact restorable
        · exact restorable.delete executed
  | grant privilege names => exact restorable.edit (edited_changePrivileges executed)
  | revoke privilege names => exact restorable.edit (edited_changePrivileges executed)
  | autotuneUsers names =>
      simp only [UserDatabase.execute] at executed
      split at executed
      · exact restorable.edit (.trans (.clear .refl _) (.setPrivileges executed))
      · cases executed
        exact restorable
  | autotuneAddRemove consider names =>
      simp only [UserDatabase.execute] at executed
      split at executed
      · exact restorable.edit (.setPrivileges executed)
      · cases executed
        exact restorable
  | rateStation user stationId rating =>
      simp only [UserDatabase.execute] at executed
      split at executed
      · cases executed
      · exact restorable.edit (.setStationRating executed)
  | savePandoraCredentials credentials =>
      exact restorable.edit (.savePandoraCredentials executed)
  | setOwnershipRule rule manager => exact restorable.edit (.setOwnershipRule executed)

/-- Over any run of commands, names stay apart and saved accounts complete. -/
theorem run (restorable : database.Restorable) {crypt : Text → Text → Text}
    {commands : List UserCommand}
    (arrives : FallibleRun.run (UserDatabase.execute crypt) database commands = .ok after) :
    after.Restorable :=
  FallibleRun.Guarded.invariant Restorable (fun _ _ _ before _ => before.execute) restorable
    (FallibleRun.guarded_of_forall (fun _ _ => trivial) database commands) arrives

/-- The saved passwords in a file have no whitespace but spaces, as enciphered ones never do. -/
def PlainAccounts (file : List UserElement) : Prop :=
  ∀ element ∈ file, ∀ account, element.account = some account →
    ∀ password, account.password = some password → PlainSpaces password

theorem recreateUser (restorable : database.Restorable) {element : UserElement}
    (plain : PlainAccounts [element]) (restored : database.recreateUser element = .ok after) :
    after.Restorable := by
  unfold UserDatabase.recreateUser at restored
  split at restored
  · split at restored
    · cases restored
      exact restorable
    · rename_i created newuser create
      split at restored
      · cases restored
      · rename_i rank _
        have account {owner : UserRef} {credentials : Credentials}
            (before : AccountSaved credentials) :
            AccountSaved ((element.account.bind (recreateAccount owner)).getD credentials) := by
          cases present : element.account with
          | none => exact before
          | some account =>
              rw [Option.bind_some]
              unfold recreateAccount
              split
              · rename_i name password mode _ held _
                cases getManagerRuleByName mode with
                | none => exact before
                | some rule =>
                    exact fun _ _ => ⟨password, rfl,
                      plain element List.mem_cons_self account present password held⟩
              · exact before
        refine Restorable.edit ?_ (.recreateStationPreferences restored)
        exact (restorable.create create).modifyUser _ (fun _ => rfl) fun user before =>
          account before
  · cases restored
    exact restorable

theorem recreateUsers (restorable : database.Restorable) {file : List UserElement}
    (plain : PlainAccounts file) (restored : database.recreateUsers file = .ok after) :
    after.Restorable := by
  induction file generalizing database with
  | nil =>
      cases restored
      exact restorable
  | cons element file ih =>
      obtain ⟨here, later⟩ := List.forall_mem_cons.mp plain
      unfold UserDatabase.recreateUsers at restored
      split at restored
      · cases restored
      · rename_i first
        refine ih (restorable.recreateUser ?_ first) later restored
        exact List.forall_mem_singleton.mpr here

theorem usersRestore {file : List UserElement} (plain : PlainAccounts file) {adminPassword : Text}
    (restored : UserDatabase.empty.usersRestore file adminPassword = .ok after) :
    after.Restorable := by
  have start : UserDatabase.empty.Restorable :=
    ⟨List.nodup_nil, fun user member => nomatch member⟩
  unfold UserDatabase.usersRestore at restored
  split at restored
  · cases restored
  · rename_i recreated read
    have users := start.recreateUsers plain read
    split at restored
    · split at restored
      · cases restored
        exact users.edit (.settings .refl false _ _)
      · rename_i created admin create
        cases restored
        exact (users.create create).edit
          (.settings (.edit .refl (.listed admin.serial) (.rank .administrator)) false _ _)
    · cases restored
      exact users.edit (.settings .refl false _ _)

end Restorable

/-- A list that commands have arrived at is written and read back as the same users, unless it is
empty or has texts that an attribute value does not hold. -/
theorem roundTrips (crypt : Text → Text → Text) (file : List UserElement)
    (firstPassword adminPassword : Text) (commands : List UserCommand)
    (ezxmlParseFile : Text → Option XmlElement) (start final : UserDatabase)
    (plain : Restorable.PlainAccounts file)
    (started : empty.usersRestore file firstPassword = .ok start)
    (arrives : FallibleRun.run (execute crypt) start commands = .ok final)
    (nonempty : final.userList ≠ []) (storable : ∀ user ∈ final.userList, user.Storable)
    (reads : Reads ezxmlParseFile (usersContent final.userList)) :
    RoundTrips ezxmlParseFile adminPassword final.userList := by
  have restorable : final.Restorable := (Restorable.usersRestore plain started).run arrives
  exact roundTrips_of_saved nonempty restorable.names restorable.saved storable reads adminPassword

/-- The data of a server that has found no user file. -/
def freshDatabase : UserDatabase :=
  { empty with
    userList := [{
      serial := 1
      name := ascii "admin"
      password := []
      rank := .administrator
      privileges := Privilege.initialValue
      pandoraCredentials := .destroyed
      stationPreferences := none }]
    nextSerial := 2 }

/-- A user is created, rates a station and saves an account. -/
def sampleCommands : List UserCommand :=
  [.create (ascii "user") (ascii "e'v <e>") (ascii "./x1"),
    .rateStation (.listed 2) (ascii "17") (ascii "bad"),
    .savePandoraCredentials
      { username := some (ascii "a&b")
        password := some (ascii "pw")
        manager := some (.listed 2)
        creator := some (.listed 2)
        managerRule := .user }]

theorem roundTrips_sample : ∃ final,
    FallibleRun.run (execute fun _ salt => salt) freshDatabase sampleCommands = .ok final ∧
    final.userList.map (·.name) = [ascii "e'v <e>", ascii "admin"] ∧
    RoundTrips (fun _ => ((usersContent final.userList).elements ezxmlDecode).head?) []
      final.userList := by
  refine ⟨_, rfl, rfl, ?_⟩
  exact roundTrips (fun _ salt => salt) [] [] [] sampleCommands _ freshDatabase _
    (fun element member => nomatch member) rfl rfl (List.cons_ne_nil _ _)
    (by decide) fun _ => rfl

private theorem restorable_freshDatabase : freshDatabase.Restorable :=
  @Restorable.usersRestore freshDatabase [] (fun _ member => nomatch member) [] rfl

/-- The commands arrive at a list that is not read back as it was, whatever reads the file. -/
def Lost (commands : List UserCommand) : Prop :=
  ∃ final, FallibleRun.run (execute fun _ salt => salt) freshDatabase commands = .ok final ∧
    ∀ ezxmlParseFile adminPassword, Reads ezxmlParseFile (usersContent final.userList) →
      ¬RoundTrips ezxmlParseFile adminPassword final.userList

private theorem perm_of_kept {β : Type*} {view : User → β}
    (sees : ∀ user restored, Kept user restored → view restored = view user)
    {users order restored : List User} (same : order.Perm users)
    (kept : List.Forall₂ Kept order restored) : (restored.map view).Perm (users.map view) := by
  have viewed : restored.map view = order.map view := by
    induction kept generalizing users with
    | nil => rfl
    | cons head _ ih => rw [List.map_cons, List.map_cons, sees _ _ head, ih (List.Perm.refl _)]
  rw [viewed]
  exact same.map view

/-- A list is not read back if something that should be kept differs in what is read. -/
theorem lost_of_read {β : Type*} (view : User → β)
    (sees : ∀ user restored, Kept user restored → view restored = view user)
    {commands : List UserCommand} {final : UserDatabase}
    (arrives : FallibleRun.run (execute fun _ salt => salt) freshDatabase commands = .ok final)
    (formed : ∀ user ∈ final.userList, ∀ record ∈ (user.stationPreferences.map opinions).getD [],
      39 ∉ record.stationId ∧ 60 ∉ record.stationId)
    {values : List β} (read : ∀ adminPassword,
      (empty.usersRestore (userElements ((usersContent final.userList).elements ezxmlDecode).head?)
        adminPassword).map (fun restored => restored.userList.map view) = .ok values)
    (differs : ¬values.Perm (final.userList.map view)) : Lost commands := by
  refine ⟨final, arrives, fun ezxmlParseFile adminPassword reads trip => ?_⟩
  obtain ⟨text, restored, order, written, restores, same, kept⟩ := trip
  have restorable : final.Restorable := restorable_freshDatabase.run arrives
  obtain rfl := Except.ok.inj ((writeUsers_eq restorable.saved).symm.trans written)
  have values := read adminPassword
  rw [← reads (wellFormed_users formed), restores] at values
  obtain rfl := Except.ok.inj values
  exact differs (perm_of_kept sees same kept)

/-- An empty list comes back with an administrator, a tab in a name as a space, and the rating of a
station under another id if the id looks like a reference. -/
theorem roundTrips_loses :
    Lost [.delete (ascii "admin") false] ∧
    Lost [.create (ascii "user") [97, 9, 98] (ascii "./x1")] ∧
    Lost [.rateStation (.listed 1) (ascii "&amp;") (ascii "bad")] := by
  refine ⟨?_, ?_, ?_⟩
  · exact @lost_of_read Unit (fun _ => ()) (fun _ _ _ => rfl) _ _ rfl
      (fun _ member => nomatch member) [()] (fun _ => rfl) (by decide)
  · exact lost_of_read (·.name) (fun _ _ kept => kept.name) rfl (by decide)
      (fun _ => rfl) (by decide)
  · exact lost_of_read (fun user => getStationRating user.stationPreferences (ascii "&amp;"))
      (fun _ _ kept => kept.rating _) rfl (by decide) (fun _ => rfl) (by decide)

end UserDatabase

end Pianod
