import Pianod.Foundation.XmlDocument
import Pianod.Server.AttributeValues
import Pianod.Server.UserRestore

/-!
# The user file as a document

The user file is an XML document.  If every text in it survives the way through an attribute value,
the elements that are read are those that were written.
-/

namespace Pianod

open Foundation

/-! ## The document -/

/-- An attribute with an escaped value. -/
def escaped (name : String) (value : Text) : Text × Text := (ascii name, value.flatMap escapeXml)

/-- A line with a self-closing tag. -/
def emptyLine (indent name : String) (attributes : List (Text × Text)) : List XmlContent :=
  [.characters (ascii indent), .empty (ascii name) attributes, .characters (ascii "\n")]

/-- The name under which a rank is written. -/
def levelName (rank : UserRank) : Text := (userTypeName rank).toOption.getD []

/-- The name under which a manager rule is written. -/
def ownershipName (rule : ManagerRule) : Text := (getManagerRuleById rule).toOption.getD []

/-- The saved Pandora account in the document. -/
def accountContent (credentials : Credentials) : List XmlContent :=
  match credentials.username, credentials.password with
  | some username, some password =>
      [.characters (ascii "    "),
        .element (ascii "pandora") [] [.characters (ascii "\n      "),
          .empty (ascii "user") [escaped "name" username, escaped "password" password,
            escaped "ownership" (ownershipName credentials.managerRule)],
          .characters (ascii "\n    ")],
        .characters (ascii "\n")]
  | _, _ => []

def privilegeContent (granted : Privilege → Bool) (entry : PrivilegeEntry) : List XmlContent :=
  if entry.persistable then
    emptyLine "    " "privilege" [escaped "name" entry.name,
      escaped "granted" (if granted entry.index then ascii "true" else ascii "false")]
  else []

/-- The station id is not escaped. -/
def ratingContent (record : RatingRecord) : List XmlContent :=
  emptyLine "      " "station" [(ascii "id", record.stationId),
    (ascii "rating", stationRatingName record.rating)]

def preferencesContent : List RatingRecord → List XmlContent
  | [] => []
  | records =>
      [.characters (ascii "    "),
        .element (ascii "stationpreferences") [] (.characters (ascii "\n") ::
          records.flatMap ratingContent ++ [.characters (ascii "    ")]),
        .characters (ascii "\n")]

/-- A user in the document. -/
def userContent (user : User) : List XmlContent :=
  [.characters (ascii "  "),
    .element (ascii "user") [escaped "name" user.name, escaped "password" user.password,
        escaped "level" (levelName user.rank)]
      (.characters (ascii "\n") :: accountContent user.pandoraCredentials ++
        privileges.flatMap (privilegeContent user.privileges) ++
        preferencesContent ((user.stationPreferences.map opinions).getD []) ++
        [.characters (ascii "  ")]),
    .characters (ascii "\n")]

/-- The root of the document. -/
def usersContent (users : List User) : XmlContent :=
  .element (ascii "pianodpasswd") [(ascii "version", ascii "1.0")]
    (.characters (ascii "\n") :: users.flatMap userContent)

/-! ## Writing the document -/

@[simp]
theorem userTypeName_eq (rank : UserRank) : userTypeName rank = .ok (levelName rank) := by
  cases rank <;> rfl

@[simp]
theorem getManagerRuleById_eq (rule : ManagerRule) :
    getManagerRuleById rule = .ok (ownershipName rule) := by
  cases rule <;> rfl

/-- A written rank is read back. -/
theorem getRankByName_levelName (rank : UserRank) : getRankByName (levelName rank) = .ok rank := by
  obtain ⟨name, written, read⟩ := userTypeName_ok rank
  rwa [levelName, written]

/-- A written manager rule is read back. -/
theorem getManagerRuleByName_ownershipName (rule : ManagerRule) :
    getManagerRuleByName (ownershipName rule) = some rule := by
  obtain ⟨name, written, read⟩ := getManagerRuleById_ok rule
  rwa [ownershipName, written]

open XmlContent

theorem renderAll_emptyLine (indent name : String) (attributes : List (Text × Text)) :
    renderAll (emptyLine indent name attributes) =
      ascii indent ++ (60 :: (ascii name ++ (renderAttributes attributes ++
        (ascii " />" ++ ascii "\n")))) := by
  simp [emptyLine, renderAll, render]

set_option maxRecDepth 4000 in
private theorem writePrivilege_eq (granted : Privilege → Bool) (entry : PrivilegeEntry) :
    writePrivilege granted entry = renderAll (privilegeContent granted entry) := by
  unfold writePrivilege privilegeContent
  split
  · simp only [renderAll_emptyLine, renderAttributes, escaped, List.flatMap_cons, List.flatMap_nil,
      fprintxml, List.append_assoc, List.cons_append, List.append_nil]
    repeat rw [ascii_ofList]
    rfl
  · rfl

set_option maxRecDepth 4000 in
private theorem writeRating_eq (record : RatingRecord) :
    writeRating record = renderAll (ratingContent record) := by
  simp only [writeRating, ratingContent, renderAll_emptyLine, renderAttributes, List.flatMap_cons,
    List.flatMap_nil, List.append_assoc, List.cons_append, List.append_nil]
  repeat rw [ascii_ofList]
  rfl

/-- Saved credentials are complete, and nothing in the password is lost on the way through the
file. -/
def AccountSaved (credentials : Credentials) : Prop :=
  ∀ username, credentials.username = some username →
    ∃ password, credentials.password = some password ∧ PlainSpaces password

set_option maxRecDepth 4000 in
private theorem writeAccount_eq {credentials : Credentials} (saved : AccountSaved credentials) :
    writeAccount credentials = .ok (renderAll (accountContent credentials)) := by
  unfold writeAccount accountContent
  cases named : credentials.username with
  | none => rfl
  | some username =>
      obtain ⟨password, held, -⟩ := saved username named
      simp only [held, getManagerRuleById_eq, Bind.bind, Except.bind, Pure.pure, Except.pure]
      simp only [renderAll, render, renderAttributes, escaped, fprintxml, List.flatMap_cons,
        List.flatMap_nil, List.append_assoc, List.cons_append, List.nil_append, List.append_nil]
      repeat rw [ascii_ofList]
      rfl

set_option maxRecDepth 4000 in
private theorem persistStationPreferences_eq (preferences : Option StationPreferences) :
    persistStationPreferences preferences =
      renderAll (preferencesContent ((preferences.map opinions).getD [])) := by
  have ratings (records : List RatingRecord) :
      records.flatMap writeRating = renderAll (records.flatMap ratingContent) := by
    rw [renderAll_flatMap]
    exact List.flatMap_congr fun record _ => writeRating_eq record
  cases preferences with
  | none => rfl
  | some preferences =>
      simp only [persistStationPreferences, Option.map_some, Option.getD_some]
      cases opinions preferences with
      | nil => rfl
      | cons record records =>
          simp only [preferencesContent, ratings, renderAll, renderAll_append, render,
            renderAttributes, List.flatMap_nil, List.append_assoc, List.cons_append,
            List.nil_append, List.append_nil]
          repeat rw [ascii_ofList]
          rfl

set_option maxRecDepth 4000 in
private theorem writeUser_eq {user : User} (saved : AccountSaved user.pandoraCredentials) :
    writeUser user = .ok (renderAll (userContent user)) := by
  have written : privileges.flatMap (writePrivilege user.privileges) =
      renderAll (privileges.flatMap (privilegeContent user.privileges)) := by
    rw [renderAll_flatMap]
    exact List.flatMap_congr fun entry _ => writePrivilege_eq user.privileges entry
  simp only [writeUser, userContent, userTypeName_eq, writeAccount_eq saved, written,
    persistStationPreferences_eq, Bind.bind, Except.bind, Pure.pure, Except.pure]
  simp only [renderAll, renderAll_append, render, renderAttributes, escaped, fprintxml,
    List.flatMap_cons, List.flatMap_nil, List.append_assoc, List.cons_append, List.nil_append,
    List.append_nil]
  repeat rw [ascii_ofList]
  rfl

/-- The list is written as a document. -/
theorem writeUsers_eq {users : List User}
    (saved : ∀ user ∈ users, AccountSaved user.pandoraCredentials) :
    writeUsers users = .ok (document (usersContent users)) := by
  have elements :
      users.mapM writeUser = .ok (users.map fun user => renderAll (userContent user)) := by
    induction users with
    | nil => rfl
    | cons user users ih =>
        simp [List.mapM_cons, writeUser_eq (saved user List.mem_cons_self),
          ih fun other later => saved other (List.mem_cons_of_mem _ later), Bind.bind, Except.bind,
          Pure.pure, Except.pure]
  have opening : ascii "<?xml version='1.0' encoding='UTF-8'?>\n<pianodpasswd version='1.0'>\n" =
      ascii "<?xml version='1.0' encoding='UTF-8'?>\n" ++ 60 :: (ascii "pianodpasswd" ++
        32 :: (ascii "version" ++ (ascii "='" ++ (ascii "1.0" ++ 39 :: 62 :: ascii "\n")))) := by
    repeat rw [ascii_ofList]
    rfl
  have closing : ascii "</pianodpasswd>\n" = ascii "</" ++ (ascii "pianodpasswd" ++ [62, 10]) := by
    repeat rw [ascii_ofList]
    rfl
  simp only [writeUsers, elements, Bind.bind, Except.bind, Pure.pure, Except.pure]
  simp only [usersContent, document, renderAll, renderAll_flatMap, render, renderAttributes,
    List.flatMap_cons, List.flatMap_nil, ← List.flatMap_def, List.append_assoc, List.cons_append,
    List.nil_append, List.append_nil]
  rw [opening, closing]
  simp only [List.append_assoc, List.cons_append]

/-! ## Reading the document -/

/-- What is read of the `user` element inside a `pandora` element. -/
def accountElement (element : XmlElement) : AccountElement where
  name := element.attr (ascii "name")
  password := element.attr (ascii "password")
  ownership := element.attr (ascii "ownership")

def privilegeElement (element : XmlElement) : PrivilegeElement where
  name := element.attr (ascii "name")
  granted := element.attr (ascii "granted")

def ratingElement (element : XmlElement) : RatingElement where
  id := element.attr (ascii "id")
  rating := element.attr (ascii "rating")

/-- What is read of a `user` element. -/
def userElement (element : XmlElement) : UserElement where
  name := element.attr (ascii "name")
  password := element.attr (ascii "password")
  level := element.attr (ascii "level")
  account := ((element.child (ascii "pandora")).bind fun pandora =>
    pandora.child (ascii "user")).map accountElement
  privileges := (element.childrenNamed (ascii "privilege")).map privilegeElement
  stationpreferences := ((element.child (ascii "stationpreferences")).map fun preferences =>
    (preferences.childrenNamed (ascii "station")).map ratingElement).getD []

/-- The users of a parsed file; there are none if it could not be opened. -/
def userElements : Option XmlElement → List UserElement
  | none => []
  | some data => (data.childrenNamed (ascii "user")).map userElement

/-- Texts of a record that survive the way through the file, apart from the saved password. -/
structure User.Storable (user : User) : Prop where
  name : PlainSpaces user.name
  password : PlainSpaces user.password
  account : ∀ username ∈ user.pandoraCredentials.username, PlainSpaces username
  /-- Station ids are written as they are. -/
  stationIds : ∀ preferences ∈ user.stationPreferences, ∀ record ∈ preferences.ratings,
    PlainSpaces record.stationId ∧ 38 ∉ record.stationId ∧ 39 ∉ record.stationId ∧
      60 ∉ record.stationId

instance (user : User) : Decidable user.Storable :=
  decidable_of_iff (PlainSpaces user.name ∧ PlainSpaces user.password ∧
    (∀ username ∈ user.pandoraCredentials.username, PlainSpaces username) ∧
    ∀ preferences ∈ user.stationPreferences, ∀ record ∈ preferences.ratings,
      PlainSpaces record.stationId ∧ 38 ∉ record.stationId ∧ 39 ∉ record.stationId ∧
        60 ∉ record.stationId)
    ⟨fun ⟨name, password, account, stationIds⟩ => ⟨name, password, account, stationIds⟩,
      fun storable => ⟨storable.name, storable.password, storable.account, storable.stationIds⟩⟩

/-- The element read for a saved account. -/
def readAccount (credentials : Credentials) : Option AccountElement :=
  match credentials.username, credentials.password with
  | some username, some password =>
      some ⟨some username, some password, some (ownershipName credentials.managerRule)⟩
  | _, _ => none

/-- The elements read for the privileges. -/
def readPrivileges (granted : Privilege → Bool) : List PrivilegeElement :=
  (privileges.filter (·.persistable)).map fun entry =>
    ⟨some entry.name, some (if granted entry.index then ascii "true" else ascii "false")⟩

/-- The element read for a record whose texts survive. -/
def readUser (user : User) : UserElement where
  name := some user.name
  password := some user.password
  level := some (levelName user.rank)
  account := readAccount user.pandoraCredentials
  privileges := readPrivileges user.privileges
  stationpreferences := ((user.stationPreferences.map opinions).getD []).map fun record =>
    ⟨some record.stationId, some (stationRatingName record.rating)⟩

theorem allElements_emptyLine (decode : Text → Text) (indent name : String)
    (attributes : List (Text × Text)) :
    allElements decode (emptyLine indent name attributes) =
      [.mk (ascii name) (decodeAttributes decode attributes) []] := rfl

/-- The element of a saved account. -/
def accountXml (credentials : Credentials) : List XmlElement :=
  match credentials.username, credentials.password with
  | some username, some password =>
      [.mk (ascii "pandora") [] [.mk (ascii "user") [(ascii "name", username),
        (ascii "password", password),
        (ascii "ownership", ownershipName credentials.managerRule)] []]]
  | _, _ => []

/-- The elements of the privileges. -/
def privilegesXml (granted : Privilege → Bool) : List XmlElement :=
  (privileges.filter (·.persistable)).map fun entry =>
    .mk (ascii "privilege") [(ascii "name", entry.name),
      (ascii "granted", if granted entry.index then ascii "true" else ascii "false")] []

def ratingXml (record : RatingRecord) : XmlElement :=
  .mk (ascii "station") [(ascii "id", record.stationId),
    (ascii "rating", stationRatingName record.rating)] []

/-- The element of the ratings. -/
def preferencesXml : List RatingRecord → List XmlElement
  | [] => []
  | records => [.mk (ascii "stationpreferences") [] (records.map ratingXml)]

private theorem plainSpaces_levelName (rank : UserRank) : PlainSpaces (levelName rank) := by
  cases rank <;> decide

private theorem plainSpaces_ownershipName (rule : ManagerRule) :
    PlainSpaces (ownershipName rule) := by
  cases rule <;> decide

theorem decoded_escaped (name : String) {value : Text} (plain : PlainSpaces value) :
    ((escaped name value).1, ezxmlDecode (escaped name value).2) = (ascii name, value) :=
  congrArg (Prod.mk (ascii name)) (ezxmlDecode_escaped plain)

private theorem allElements_account {credentials : Credentials} (saved : AccountSaved credentials)
    (plain : ∀ username ∈ credentials.username, PlainSpaces username) :
    allElements ezxmlDecode (accountContent credentials) = accountXml credentials := by
  unfold accountContent accountXml
  cases named : credentials.username with
  | none => rfl
  | some username =>
      obtain ⟨password, held, plainPassword⟩ := saved username named
      simp [held, allElements, elements, decodeAttributes, decoded_escaped _ plainPassword,
        decoded_escaped _ (plain username named),
        decoded_escaped _ (plainSpaces_ownershipName credentials.managerRule)]

private theorem allElements_privileges (granted : Privilege → Bool) :
    allElements ezxmlDecode (privileges.flatMap (privilegeContent granted)) =
      privilegesXml granted := by
  have one (entry : PrivilegeEntry) (listed : entry ∈ privileges) :
      allElements ezxmlDecode (privilegeContent granted entry) =
        if entry.persistable then
          [.mk (ascii "privilege") [(ascii "name", entry.name),
            (ascii "granted", if granted entry.index then ascii "true" else ascii "false")] []]
        else [] := by
    have plain : PlainSpaces entry.name := by
      revert entry
      decide
    have value : PlainSpaces (if granted entry.index then ascii "true" else ascii "false") := by
      split <;> decide
    unfold privilegeContent
    split
    · rw [allElements_emptyLine, decodeAttributes, List.map_cons, List.map_cons, List.map_nil,
        decoded_escaped _ plain, decoded_escaped _ value]
    · rfl
  rw [allElements_flatMap, List.flatMap_congr one]
  rfl

private theorem allElements_rating {record : RatingRecord} (plain : PlainSpaces record.stationId)
    (noReference : 38 ∉ record.stationId) :
    allElements ezxmlDecode (ratingContent record) = [ratingXml record] := by
  have rating :
      ezxmlDecode (stationRatingName record.rating) = stationRatingName record.rating := by
    cases record.rating <;> decide
  rw [ratingContent, allElements_emptyLine, decodeAttributes, List.map_cons, List.map_cons,
    List.map_nil, ezxmlDecode_bare plain noReference, rating]
  rfl

private theorem allElements_preferences {records : List RatingRecord}
    (plain : ∀ record ∈ records, PlainSpaces record.stationId ∧ 38 ∉ record.stationId) :
    allElements ezxmlDecode (preferencesContent records) = preferencesXml records := by
  have ratings : allElements ezxmlDecode (records.flatMap ratingContent) =
      records.map ratingXml := by
    rw [allElements_flatMap, List.map_eq_flatMap]
    exact List.flatMap_congr fun record member =>
      allElements_rating (plain record member).1 (plain record member).2
  cases records with
  | nil => rfl
  | cons record records =>
      simpa [preferencesContent, preferencesXml, allElements, elements, allElements_append,
        decodeAttributes] using ratings

/-- The element read for a user. -/
def userXml (user : User) : XmlElement :=
  .mk (ascii "user") [(ascii "name", user.name), (ascii "password", user.password),
      (ascii "level", levelName user.rank)]
    (accountXml user.pandoraCredentials ++ privilegesXml user.privileges ++
      preferencesXml ((user.stationPreferences.map opinions).getD []))

private theorem mem_opinions {preferences : StationPreferences} {record : RatingRecord}
    (member : record ∈ opinions preferences) : record ∈ preferences.ratings :=
  (List.mem_filter.mp member).1

/-- The ids that are written are ids of the record. -/
theorem User.Storable.opinions {user : User} (storable : user.Storable) {record : RatingRecord}
    (member : record ∈ (user.stationPreferences.map opinions).getD []) :
    PlainSpaces record.stationId ∧ 38 ∉ record.stationId ∧ 39 ∉ record.stationId ∧
      60 ∉ record.stationId := by
  cases rated : user.stationPreferences with
  | none => simp [rated] at member
  | some preferences =>
      rw [rated] at member
      exact storable.stationIds preferences rated record (mem_opinions member)

private theorem allElements_user {user : User} (saved : AccountSaved user.pandoraCredentials)
    (storable : user.Storable) :
    allElements ezxmlDecode (userContent user) = [userXml user] := by
  have preferences := allElements_preferences fun record member =>
    And.intro (storable.opinions member).1 (storable.opinions member).2.1
  simp only [userContent, allElements, elements, allElements_append, List.cons_append,
    List.nil_append, List.append_nil, allElements_account saved storable.account,
    allElements_privileges, preferences, decodeAttributes, List.map_cons, List.map_nil,
    decoded_escaped _ storable.name, decoded_escaped _ storable.password,
    decoded_escaped _ (plainSpaces_levelName user.rank), userXml]

/-- The root as it is read. -/
def usersXml (users : List User) : XmlElement :=
  .mk (ascii "pianodpasswd") [(ascii "version", ascii "1.0")] (users.map userXml)

theorem elements_users {users : List User}
    (saved : ∀ user ∈ users, AccountSaved user.pandoraCredentials)
    (storable : ∀ user ∈ users, user.Storable) :
    (usersContent users).elements ezxmlDecode = [usersXml users] := by
  have every : allElements ezxmlDecode (users.flatMap userContent) = users.map userXml := by
    rw [allElements_flatMap, List.map_eq_flatMap]
    exact List.flatMap_congr fun user member =>
      allElements_user (saved user member) (storable user member)
  have version : ezxmlDecode (ascii "1.0") = ascii "1.0" := by decide
  simp only [usersContent, elements, allElements, List.nil_append, every, decodeAttributes,
    List.map_cons, List.map_nil, version, usersXml]

/-! ## What is read of the elements -/

/-- Elements of different kinds have different names. -/
theorem elementNames_apart : ascii "pandora" ≠ ascii "privilege" ∧
    ascii "pandora" ≠ ascii "stationpreferences" ∧
    ascii "privilege" ≠ ascii "stationpreferences" := by
  repeat rw [ascii_ofList]
  decide

theorem named_accountXml (credentials : Credentials) :
    ∀ element ∈ accountXml credentials, element.name = ascii "pandora" := by
  unfold accountXml
  split <;> simp [XmlElement.name]

theorem named_privilegesXml (granted : Privilege → Bool) :
    ∀ element ∈ privilegesXml granted, element.name = ascii "privilege" := by
  intro element member
  obtain ⟨entry, -, rfl⟩ := List.mem_map.mp member
  rfl

theorem named_preferencesXml (records : List RatingRecord) :
    ∀ element ∈ preferencesXml records, element.name = ascii "stationpreferences" := by
  cases records <;> simp [preferencesXml, XmlElement.name]

private theorem map_ratingElement (records : List RatingRecord) :
    ((records.map ratingXml).filter fun child => child.name = ascii "station").map ratingElement =
      records.map fun record =>
        ⟨some record.stationId, some (stationRatingName record.rating)⟩ := by
  have named : ∀ element ∈ records.map ratingXml, element.name = ascii "station" := by
    intro element member
    obtain ⟨record, -, rfl⟩ := List.mem_map.mp member
    rfl
  rw [XmlElement.filter_of_named named, if_pos rfl, List.map_map]
  rfl

private theorem account_userXml (user : User) :
    (((userXml user).child (ascii "pandora")).bind fun pandora =>
      pandora.child (ascii "user")).map accountElement = readAccount user.pandoraCredentials := by
  have found : (userXml user).child (ascii "pandora") =
      (accountXml user.pandoraCredentials).head? := by
    simp only [userXml, XmlElement.child, XmlElement.children, List.find?_append]
    rw [XmlElement.find?_of_named (named_accountXml _), if_pos rfl,
      XmlElement.find?_of_named (named_privilegesXml _), if_neg elementNames_apart.1.symm,
      XmlElement.find?_of_named (named_preferencesXml _), if_neg elementNames_apart.2.1.symm,
      Option.or_none, Option.or_none]
  rw [found]
  unfold accountXml readAccount
  split <;> rfl

private theorem privileges_userXml (user : User) :
    ((userXml user).childrenNamed (ascii "privilege")).map privilegeElement =
      readPrivileges user.privileges := by
  have found : (userXml user).childrenNamed (ascii "privilege") =
      privilegesXml user.privileges := by
    simp only [userXml, XmlElement.childrenNamed, XmlElement.children, List.filter_append]
    rw [XmlElement.filter_of_named (named_accountXml _), if_neg elementNames_apart.1,
      XmlElement.filter_of_named (named_privilegesXml _), if_pos rfl,
      XmlElement.filter_of_named (named_preferencesXml _), if_neg elementNames_apart.2.2.symm,
      List.append_nil, List.nil_append]
  rw [found, privilegesXml, readPrivileges, List.map_map]
  rfl

private theorem ratings_userXml (user : User) :
    (((userXml user).child (ascii "stationpreferences")).map fun preferences =>
      (preferences.childrenNamed (ascii "station")).map ratingElement).getD [] =
        (readUser user).stationpreferences := by
  have found : (userXml user).child (ascii "stationpreferences") =
      (preferencesXml ((user.stationPreferences.map opinions).getD [])).head? := by
    simp only [userXml, XmlElement.child, XmlElement.children, List.find?_append]
    rw [XmlElement.find?_of_named (named_accountXml _), if_neg elementNames_apart.2.1,
      XmlElement.find?_of_named (named_privilegesXml _), if_neg elementNames_apart.2.2,
      XmlElement.find?_of_named (named_preferencesXml _), if_pos rfl, Option.none_or,
      Option.none_or]
  rw [found, readUser]
  cases (user.stationPreferences.map opinions).getD [] with
  | nil => rfl
  | cons record records => exact map_ratingElement (record :: records)

private theorem userElement_userXml (user : User) : userElement (userXml user) = readUser user := by
  rw [userElement, account_userXml, privileges_userXml, ratings_userXml]
  rfl

theorem userElements_usersXml (users : List User) :
    userElements (some (usersXml users)) = users.map readUser := by
  have named : ∀ element ∈ users.map userXml, element.name = ascii "user" := by
    intro element member
    obtain ⟨user, -, rfl⟩ := List.mem_map.mp member
    rfl
  rw [userElements, XmlElement.childrenNamed, usersXml, XmlElement.children,
    XmlElement.filter_of_named named, if_pos rfl, List.map_map]
  exact List.map_congr_left fun user _ => userElement_userXml user

/-! ## The document is well formed -/

/-- The names of the elements and of the attributes are names. -/
theorem isName_names : (IsName (ascii "pianodpasswd") ∧ IsName (ascii "user") ∧
      IsName (ascii "pandora") ∧ IsName (ascii "privilege") ∧
      IsName (ascii "stationpreferences") ∧ IsName (ascii "station")) ∧
    IsName (ascii "version") ∧ IsName (ascii "name") ∧ IsName (ascii "password") ∧
      IsName (ascii "level") ∧ IsName (ascii "ownership") ∧ IsName (ascii "granted") ∧
      IsName (ascii "id") ∧ IsName (ascii "rating") := by
  repeat rw [ascii_ofList]
  decide

theorem formed_escaped (name : String) (value : Text) :
    (IsName (escaped name value).1 ∧ 39 ∉ (escaped name value).2 ∧
      60 ∉ (escaped name value).2) ↔ IsName (ascii name) := by
  refine ⟨fun formed => formed.1, fun named => ⟨named, fun member => ?_, fun member => ?_⟩⟩
  · obtain ⟨byte, -, written⟩ := List.mem_flatMap.mp member
    exact (mem_escapeXml written).1 rfl
  · obtain ⟨byte, -, written⟩ := List.mem_flatMap.mp member
    exact (mem_escapeXml written).2.1 rfl

theorem wellFormed_blank {text : String} (blank : (ascii text).all isspace) :
    (characters (ascii text)).WellFormed :=
  List.all_eq_true.mp blank

theorem wellFormed_emptyLine {indent name : String} {attributes : List (Text × Text)}
    (blank : (ascii indent).all isspace) (named : IsName (ascii name))
    (formed : AttributesFormed attributes) : AllWellFormed (emptyLine indent name attributes) :=
  ⟨wellFormed_blank blank, ⟨named, formed⟩, wellFormed_blank rfl, trivial⟩

private theorem wellFormed_account (credentials : Credentials) :
    AllWellFormed (accountContent credentials) := by
  unfold accountContent
  split
  · rename_i username password _ _
    have user : (XmlContent.empty (ascii "user") [escaped "name" username,
        escaped "password" password,
        escaped "ownership" (ownershipName credentials.managerRule)]).WellFormed := by
      refine ⟨by simp only [isName_names], ?_⟩
      simp only [attributesFormed_cons, formed_escaped, attributesFormed_nil, isName_names,
        and_true]
    exact ⟨wellFormed_blank rfl, ⟨by simp only [isName_names], attributesFormed_nil,
      wellFormed_blank rfl, user, wellFormed_blank rfl, trivial⟩, wellFormed_blank rfl, trivial⟩
  · trivial

private theorem wellFormed_privilege (granted : Privilege → Bool) (entry : PrivilegeEntry) :
    AllWellFormed (privilegeContent granted entry) := by
  unfold privilegeContent
  split
  · refine wellFormed_emptyLine rfl (by simp only [isName_names]) ?_
    simp only [attributesFormed_cons, formed_escaped, attributesFormed_nil, isName_names, and_true]
  · trivial

private theorem wellFormed_rating {record : RatingRecord} (noQuote : 39 ∉ record.stationId)
    (noTag : 60 ∉ record.stationId) : AllWellFormed (ratingContent record) := by
  have rating : 39 ∉ stationRatingName record.rating ∧ 60 ∉ stationRatingName record.rating := by
    cases record.rating <;> decide
  refine wellFormed_emptyLine rfl (by simp only [isName_names]) ?_
  simp only [attributesFormed_cons, noQuote, noTag, rating, attributesFormed_nil, isName_names,
    and_true, not_false_eq_true]

private theorem wellFormed_preferences {records : List RatingRecord}
    (formed : ∀ record ∈ records, 39 ∉ record.stationId ∧ 60 ∉ record.stationId) :
    AllWellFormed (preferencesContent records) := by
  have ratings : AllWellFormed (records.flatMap ratingContent) :=
    allWellFormed_flatMap.mpr fun record member =>
      wellFormed_rating (formed record member).1 (formed record member).2
  cases records with
  | nil => trivial
  | cons record records =>
      have content : AllWellFormed (characters (ascii "\n") ::
          (record :: records).flatMap ratingContent ++ [characters (ascii "    ")]) :=
        ⟨wellFormed_blank rfl, allWellFormed_append.mpr ⟨ratings, wellFormed_blank rfl, trivial⟩⟩
      exact ⟨wellFormed_blank rfl, ⟨by simp only [isName_names], attributesFormed_nil, content⟩,
        wellFormed_blank rfl, trivial⟩

private theorem wellFormed_user {user : User}
    (formed : ∀ record ∈ (user.stationPreferences.map opinions).getD [],
      39 ∉ record.stationId ∧ 60 ∉ record.stationId) :
    AllWellFormed (userContent user) := by
  have privileges : AllWellFormed (privileges.flatMap (privilegeContent user.privileges)) :=
    allWellFormed_flatMap.mpr fun entry _ => wellFormed_privilege user.privileges entry
  have preferences := wellFormed_preferences formed
  have attributes : AttributesFormed [escaped "name" user.name, escaped "password" user.password,
      escaped "level" (levelName user.rank)] := by
    simp only [attributesFormed_cons, formed_escaped, attributesFormed_nil, isName_names, and_true]
  refine ⟨wellFormed_blank rfl, ⟨by simp only [isName_names], attributes, ?_⟩,
    wellFormed_blank rfl, trivial⟩
  refine ⟨wellFormed_blank rfl, ?_⟩
  simp only [List.append_eq, allWellFormed_append]
  exact ⟨⟨⟨wellFormed_account user.pandoraCredentials, privileges⟩, preferences⟩,
    wellFormed_blank rfl, trivial⟩

/-- What is written is well formed if the station ids are. -/
theorem wellFormed_users {users : List User}
    (formed : ∀ user ∈ users, ∀ record ∈ (user.stationPreferences.map opinions).getD [],
      39 ∉ record.stationId ∧ 60 ∉ record.stationId) :
    (usersContent users).WellFormed := by
  have version : AttributesFormed [(ascii "version", ascii "1.0")] := by
    simp only [attributesFormed_cons, attributesFormed_nil, isName_names, and_true]
    decide
  exact ⟨by simp only [isName_names], version, wellFormed_blank rfl,
    allWellFormed_flatMap.mpr fun user member => wellFormed_user (formed user member)⟩

end Pianod
