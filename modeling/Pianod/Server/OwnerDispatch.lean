import Pianod.Football.FixedPatterns
import Pianod.Server.CommandGrammar
import Pianod.Server.OwnerRequests

/-!
# The owner's arguments

The dispatcher reads the terms of a command by number.  The numbers have to be those of the
placeholders in the pattern that the command matches.
-/

namespace Pianod

open Foundation Football

/-! ## The dispatcher -/

/-- The command with a number. -/
def MyCommand.ofNumber (features : Features) (number : Int) : Option MyCommand :=
  (declared features).find? fun command => command.number features = number

/-- A term of a command that is read through its pointer. -/
def required (argv : List Text) (index : Nat) : Except Fault Text :=
  match argv[index]? with
  | some term => .ok term
  | none => .error .nullDereference

/-- Whether a term is the keyword for an artist. -/
def isArtist (term : Text) : Bool := Text.strcasecmp term (ascii "artist") = .eq

/-- What is called for the commands that create and rename stations and for those that add and
remove the seeds of a song; nothing for others. -/
def ownerCall (argv : List Text) : MyCommand → Except Fault (Option OwnerCall)
  | .stationRename => (required argv 2).bind fun name => (required argv 4).map fun newName =>
      some (.renameStation name newName)
  | .stationCreateBySong => (required argv 3).map fun keyword =>
      some (.createStationFromSong none (isArtist keyword) argv[4]?)
  | .stationCreateBySongWName => (required argv 3).map fun keyword =>
      some (.createStationFromSong argv[3]? (isArtist keyword) argv[6]?)
  | .stationCreateById => (required argv 4).map fun stationId =>
      some (.createStationFromShared none stationId)
  | .stationCreateByIdWName => (required argv 6).map fun stationId =>
      some (.createStationFromShared argv[3]? stationId)
  | .stationCreate => (required argv 4).map fun suggestionId =>
      some (.createStationFromSuggestion none suggestionId)
  | .stationCreateWName => (required argv 6).map fun suggestionId =>
      some (.createStationFromSuggestion argv[3]? suggestionId)
  | .seedAdd => (required argv 4).map fun suggestionId => some (.addSeed none suggestionId)
  | .seedAddWStation => (required argv 4).map fun suggestionId =>
      some (.addSeed argv[6]? suggestionId)
  | .seedDeleteBySong => (required argv 1).map fun keyword =>
      some (.removeSongSeed (isArtist keyword) argv[3]?)
  | .seedAddBySong => (required argv 1).map fun keyword =>
      some (.addSongSeed none (isArtist keyword) argv[5]?)
  | .seedAddBySongWStation => (required argv 1).map fun keyword =>
      some (.addSongSeed argv[4]? (isArtist keyword) argv[7]?)
  | _ => .ok none

/-- The requests of a command of a user, as far as it is one of these. -/
def ownerRequests {doubles : Doubles} (features : Features) (parser : Parser doubles)
    (world : World) (server : Server) (session : Nat) (argv : List Text) :
    Except Fault (List OwnerRequest) :=
  match MyCommand.ofNumber features (fbInterpret parser argv).1 with
  | none => .ok []
  | some command =>
      if !server.app.haveRank session .listener then .ok []
      else if !server.app.havePrivilege session .manager then .ok []
      else match ownerCall argv command with
        | .error fault => .error fault
        | .ok none => .ok []
        | .ok (some call) => call.requests world server session

/-! ## What the placeholders stand for -/

/-- Something for each kind of placeholder. -/
structure Placeholders (α : Type) where
  keyword : α
  station : α
  name : α
  songId : α
  suggestionId : α
  sharedId : α
deriving DecidableEq

/-- The positions of a pattern's placeholders; those that it does not have are past its end. -/
def positions (pattern : List Text) : Placeholders Nat where
  keyword := pattern.idxOf (utf8 "<song|artist>")
  station := pattern.idxOf (utf8 "\x7bstation\x7d")
  name := pattern.findIdx [utf8 "\x7bname\x7d", utf8 "\x7bnewname\x7d"].contains
  songId := pattern.idxOf (utf8 "[\x7bsongid\x7d]")
  suggestionId := pattern.idxOf (utf8 "\x7bsuggestionid\x7d")
  sharedId := pattern.idxOf (utf8 "\x7bstationId\x7d")

/-- The terms of a command at some positions. -/
def Placeholders.terms (positions : Placeholders Nat) (argv : List Text) :
    Placeholders (Option Text) where
  keyword := argv[positions.keyword]?
  station := argv[positions.station]?
  name := argv[positions.name]?
  songId := argv[positions.songId]?
  suggestionId := argv[positions.suggestionId]?
  sharedId := argv[positions.sharedId]?

/-- The song that an id stands for, or the current one. -/
def Server.songMeant (server : Server) (session : Nat) (songId : Option Text) : Option PianoSong :=
  (server.getSongByIdOrCurrent session songId).2.map Prod.snd

/-- A request is of artist kind just when the keyword asks for that, and its station, its name and
its id are the ones that the terms stand for. -/
def OwnerRequest.Fits (world : World) (server : Server) (session : Nat)
    (terms : Placeholders (Option Text)) : OwnerRequest → Prop
  | .createStation token .invalid =>
      terms.sharedId = some token ∨ ∃ kind, terms.suggestionId = some (kind :: token)
  | .createStation token type =>
      ∃ keyword song, terms.keyword = some keyword ∧ (type = .artist ↔ isArtist keyword = true) ∧
        server.songMeant session terms.songId = some song ∧ token = song.trackToken
  | .renameStation station newName =>
      terms.name = some newName ∧ match terms.station with
        | some name =>
            pianoFindStationByName server.app.stationState.stations name = some station
        | none => station = ⟨server.app.stationState.nextAddress, world.createdStation.1⟩
  | .transformStation station => ∀ name, terms.station = some name → ∃ named,
      pianoFindStationByName server.app.stationState.stations name = some named ∧
        pianoFindStationById server.app.stationState.stations named.station.id = some station
  | .search searchStr => ∃ keyword song, terms.keyword = some keyword ∧
      server.songMeant session terms.songId = some song ∧
        searchStr = if isArtist keyword then song.artist else song.title
  | .addSeed station musicId =>
      (∃ kind next, terms.suggestionId = some (kind :: musicId) ∧
        server.getStationByNameOrCurrent session terms.station = .ok (next, some station)) ∨
      ∃ keyword song, terms.keyword = some keyword ∧
        server.songMeant session terms.songId = some song ∧
        server.seededStation terms.station song = some station ∧
        Server.foundMusicId world (isArtist keyword) song = some musicId
  | .deleteSeed artist song => ∃ keyword meant, terms.keyword = some keyword ∧
      server.songMeant session terms.songId = some meant ∧
      if isArtist keyword then
        song = none ∧ artist.isSome ∧ artist = server.artistSeedBySong meant
      else artist = none ∧ song = some meant

namespace Server

variable {world : World} {server next : Server} {session : Nat} {request : OwnerRequest}
  {terms : Placeholders (Option Text)}

theorem getSongByIdOrCurrent_some {songId : Option Text} {place : SongPlace} {song : PianoSong}
    (located : server.getSongByIdOrCurrent session songId = (next, some (place, song))) :
    next = server ∧ server.songMeant session songId = some song := by
  rw [songMeant, located]
  refine ⟨?_, rfl⟩
  unfold getSongByIdOrCurrent at located
  split at located
  · split at located
    · cases located
    · exact (Prod.mk.inj located).1.symm
  · split at located
    · cases located
    · exact (Prod.mk.inj located).1.symm

private theorem getStationByNameOrCurrent_some {name : Option Text} {station : StationCell}
    (located : server.getStationByNameOrCurrent session name = .ok (next, some station)) :
    next = server := by
  unfold getStationByNameOrCurrent at located
  simp only at located
  split at located
  · split at located
    · exact (Prod.mk.inj (Except.ok.inj located)).1.symm
    · cases located
  · split at located
    · cases located
    · split at located
      · exact (Prod.mk.inj (Except.ok.inj located)).1.symm
      · cases located
    · cases located

private theorem getStationByNameOrCurrent_named {name : Text} {station : StationCell}
    (located : server.getStationByNameOrCurrent session (some name) = .ok (next, some station)) :
    pianoFindStationByName server.app.stationState.stations name = some station := by
  unfold getStationByNameOrCurrent at located
  simp only at located
  split at located
  · rename_i found
    cases located
    exact found
  · cases located

theorem mem_pwnStationRequests {stationId : Text}
    (member : request ∈ server.pwnStationRequests stationId) : ∃ cell,
      request = .transformStation cell ∧
        pianoFindStationById server.app.stationState.stations stationId = some cell := by
  unfold pwnStationRequests at member
  split at member
  · cases member
  · rename_i cell found
    split at member
    · cases member
    · exact ⟨cell, List.mem_singleton.mp member, found⟩

/-- What is sent for owning a station and after that fits if the rest does. -/
theorem fits_of_pwned {stationId : Text} {requests : Server → List OwnerRequest}
    (named : ∀ name, terms.station = some name → ∃ station,
      pianoFindStationByName server.app.stationState.stations name = some station ∧
        station.station.id = stationId)
    (fits : ∀ owner, ∀ request ∈ requests owner, request.Fits world server session terms)
    (member : request ∈ server.pwnStationRequests stationId ++
      match server.pwnStation world session stationId with
      | (_, false) => []
      | (owner, true) => requests owner) :
    request.Fits world server session terms := by
  rcases List.mem_append.mp member with owning | later
  · obtain ⟨cell, rfl, found⟩ := mem_pwnStationRequests owning
    intro name given
    obtain ⟨station, there, rfl⟩ := named name given
    exact ⟨station, there, found⟩
  · split at later
    · cases later
    · exact fits _ request later

/-- A new station is renamed to the name that is given. -/
theorem renameNewStationRequests_fit {name : Option Text} (same : next.app = server.app)
    (unlisted : terms.station = none) (named : terms.name = name)
    (member : request ∈ (next.withCreated world).renameNewStationRequests world session name) :
    request.Fits world server session terms := by
  unfold renameNewStationRequests at member
  cases name with
  | none => cases member
  | some name =>
      rw [show (next.withCreated world).app.stationState.stations.getLast? = _ from
        StationState.getLast?_insertCreated next.app.stationState world.createdStation.1] at member
      rcases List.mem_append.mp member with owning | later
      · obtain ⟨cell, rfl, -⟩ := mem_pwnStationRequests owning
        intro other given
        rw [unlisted] at given
        cases given
      · split at later
        · cases later
        · cases List.mem_singleton.mp later
          rw [OwnerRequest.Fits, unlisted, same]
          exact ⟨named, rfl⟩

/-- What follows the creation of a station fits. -/
theorem createStationRequests_fit_iff {name : Option Text} {token : Text} {type : MusicType}
    (unlisted : terms.station = none) (named : terms.name = name) :
    (∀ request ∈ server.createStationRequests world session name token type,
        request.Fits world server session terms) ↔
      (OwnerRequest.createStation token type).Fits world server session terms := by
  refine ⟨fun fits => fits _ List.mem_cons_self, fun first request member => ?_⟩
  rcases List.mem_cons.mp member with rfl | later
  · exact first
  · split at later
    · cases later
    · rename_i after transaction
      have same := server.pianoTransaction_app world (some session) .createStation
      rw [transaction] at same
      exact renameNewStationRequests_fit same unlisted named later

/-- The request for a station from a song fits if and only if it is of the kind that the keyword
asks for. -/
theorem createStationFromSongRequests_fit_iff {name songId : Option Text} {artist : Bool}
    {keyword : Text} (unlisted : terms.station = none) (named : terms.name = name)
    (kind : terms.keyword = some keyword) (meant : terms.songId = songId) :
    (∀ request ∈ server.createStationFromSongRequests world session name artist songId,
        request.Fits world server session terms) ↔
      ((server.songMeant session songId).isSome → artist = isArtist keyword) := by
  unfold createStationFromSongRequests
  cases located : server.getSongByIdOrCurrent session songId with
  | mk after found =>
      cases found with
      | none =>
          have nothing : server.songMeant session songId = none := by rw [songMeant, located]; rfl
          rw [nothing]
          exact iff_of_true (fun request member => by cases member) fun there => by cases there
      | some entry =>
          obtain ⟨place, song⟩ := entry
          obtain ⟨rfl, there⟩ := getSongByIdOrCurrent_some located
          rw [createStationRequests_fit_iff unlisted named, there]
          rw [← meant] at there
          constructor
          · intro fits _
            cases artist <;> obtain ⟨other, _, same, exactly, -⟩ := fits
            all_goals
              cases kind.symm.trans same
              simpa using exactly
          · intro right
            cases right rfl
            cases asked : isArtist keyword
            · exact ⟨keyword, song, kind, by simp [asked], there, rfl⟩
            · exact ⟨keyword, song, kind, by simp [asked], there, rfl⟩

end Server

/-- The arguments of a call are the terms that the placeholders stand for. -/
def OwnerCall.Reads (terms : Placeholders (Option Text)) : OwnerCall → Prop
  | .createStationFromSong name artist songId =>
      terms.station = none ∧ terms.name = name ∧ terms.keyword.map isArtist = some artist ∧
        terms.songId = songId
  | .createStationFromShared name stationId =>
      terms.station = none ∧ terms.name = name ∧ terms.sharedId = some stationId
  | .createStationFromSuggestion name suggestionId =>
      terms.station = none ∧ terms.name = name ∧ terms.suggestionId = some suggestionId
  | .renameStation fromName toName => terms.station = some fromName ∧ terms.name = some toName
  | .addSeed stationName suggestionId =>
      terms.station = stationName ∧ terms.suggestionId = some suggestionId
  | .addSongSeed stationName artist songId =>
      terms.station = stationName ∧ terms.keyword.map isArtist = some artist ∧
        terms.songId = songId
  | .removeSongSeed artist songId =>
      terms.keyword.map isArtist = some artist ∧ terms.songId = songId

theorem suggestion_split {suggestionId : Text}
    (suggested : Server.isSuggestion suggestionId = true) :
    ∃ kind, suggestionId = kind :: suggestionId.tail := by
  cases suggestionId with
  | nil => cases suggested
  | cons kind token => exact ⟨kind, rfl⟩

section

variable {world : World} {server : Server} {session : Nat} {request : OwnerRequest}
  {terms : Placeholders (Option Text)}

private theorem addSeedRequests_fit {stationName : Option Text} {suggestionId : Text}
    {requests : List OwnerRequest} (named : terms.station = stationName)
    (suggests : terms.suggestionId = some suggestionId)
    (sent : server.addSeedRequests world session stationName suggestionId = .ok requests)
    (member : request ∈ requests) : request.Fits world server session terms := by
  unfold Server.addSeedRequests at sent
  split at sent
  · cases sent
  · cases sent
    cases member
  · rename_i next station located
    cases sent
    cases Server.getStationByNameOrCurrent_some located
    split at member
    · rename_i suggested
      obtain ⟨kind, whole⟩ := suggestion_split suggested
      refine Server.fits_of_pwned (fun name given => ?_) (fun owner request added => ?_) member
      · rw [← named, given] at located
        exact ⟨station, Server.getStationByNameOrCurrent_named located, rfl⟩
      · cases List.mem_singleton.mp added
        exact .inl ⟨kind, _, by rw [suggests, ← whole], by rw [named]; exact located⟩
    · cases member

private theorem addSongSeedRequests_fit {stationName songId : Option Text} {artist : Bool}
    (named : terms.station = stationName) (kind : terms.keyword.map isArtist = some artist)
    (meant : terms.songId = songId)
    (member : request ∈ server.addSongSeedRequests world session stationName artist songId) :
    request.Fits world server session terms := by
  obtain ⟨keyword, given, rfl⟩ := Option.map_eq_some_iff.mp kind
  unfold Server.addSongSeedRequests at member
  split at member
  · cases member
  · rename_i next place song located
    obtain ⟨rfl, there⟩ := Server.getSongByIdOrCurrent_some located
    rw [← meant] at there
    split at member
    · cases member
    · rename_i station seeded
      refine Server.fits_of_pwned (fun name listed => ?_) (fun owner request added => ?_) member
      · rw [← named, listed] at seeded
        exact ⟨station, seeded, rfl⟩
      · rcases List.mem_cons.mp added with rfl | added
        · exact ⟨keyword, song, given, there, rfl⟩
        · split at added
          · cases added
          · obtain ⟨musicId, known, rfl⟩ := Option.map_eq_some_iff.mp (Option.mem_toList.mp added)
            exact .inr ⟨keyword, song, given, there, by rw [named]; exact seeded, known⟩

private theorem removeSongSeedRequests_fit {songId : Option Text} {artist : Bool}
    (kind : terms.keyword.map isArtist = some artist) (meant : terms.songId = songId)
    (member : request ∈ server.removeSongSeedRequests session artist songId) :
    request.Fits world server session terms := by
  obtain ⟨keyword, given, rfl⟩ := Option.map_eq_some_iff.mp kind
  unfold Server.removeSongSeedRequests at member
  split at member
  · cases member
  · rename_i next place song located
    obtain ⟨rfl, there⟩ := Server.getSongByIdOrCurrent_some located
    rw [← meant] at there
    split at member
    · rename_i asked
      obtain ⟨seed, found, rfl⟩ := Option.map_eq_some_iff.mp (Option.mem_toList.mp member)
      refine ⟨keyword, song, given, there, ?_⟩
      rw [if_pos asked]
      exact ⟨rfl, rfl, found.symm⟩
    · rename_i asked
      split at member
      · cases member
      · cases List.mem_singleton.mp member
        refine ⟨keyword, song, given, there, ?_⟩
        rw [if_neg asked]
        exact ⟨rfl, rfl⟩

/-- The requests of a call fit the terms that it reads. -/
theorem OwnerCall.Reads.fit {call : OwnerCall} {requests : List OwnerRequest}
    (reads : call.Reads terms) (sent : call.requests world server session = .ok requests)
    (member : request ∈ requests) : request.Fits world server session terms := by
  cases call with
  | createStationFromSong name artist songId =>
      cases sent
      obtain ⟨unlisted, named, kind, meant⟩ := reads
      obtain ⟨keyword, given, rfl⟩ := Option.map_eq_some_iff.mp kind
      exact (Server.createStationFromSongRequests_fit_iff unlisted named given meant).mpr
        (fun _ => rfl) request member
  | createStationFromShared name stationId =>
      cases sent
      obtain ⟨unlisted, named, shared⟩ := reads
      unfold Server.createStationFromSharedRequests at member
      split at member
      · refine (Server.createStationRequests_fit_iff unlisted named).mpr ?_ request member
        exact Or.inl shared
      · cases member
  | createStationFromSuggestion name suggestionId =>
      cases sent
      obtain ⟨unlisted, named, suggests⟩ := reads
      unfold Server.createStationFromSuggestionRequests at member
      split at member
      · rename_i suggested
        obtain ⟨kind, whole⟩ := suggestion_split suggested
        refine (Server.createStationRequests_fit_iff unlisted named).mpr ?_ request member
        exact Or.inr ⟨kind, by rw [suggests, ← whole]⟩
      · cases member
  | renameStation fromName toName =>
      obtain ⟨listed, named⟩ := reads
      rw [OwnerCall.requests, Server.renameStationRequests] at sent
      split at sent
      · cases sent
      · rename_i station found
        cases sent
        refine Server.fits_of_pwned (fun name given => ?_) (fun owner request renamed => ?_) member
        · cases listed.symm.trans given
          exact ⟨station, found, rfl⟩
        · cases List.mem_singleton.mp renamed
          rw [OwnerRequest.Fits, listed]
          exact ⟨named, found⟩
  | addSeed stationName suggestionId => exact addSeedRequests_fit reads.1 reads.2 sent member
  | addSongSeed stationName artist songId =>
      cases sent
      exact addSongSeedRequests_fit reads.1 reads.2.1 reads.2.2 member
  | removeSongSeed artist songId =>
      cases sent
      exact removeSongSeedRequests_fit reads.1 reads.2 member

end

/-! ## Patterns and positions -/

/-- How many terms a pattern needs and allows, and where its placeholders are. -/
structure Layout where
  least : Nat
  most : Nat
  positions : Placeholders Nat
deriving DecidableEq

def layout (pattern : List Text) : Layout := ⟨leastTerms pattern, pattern.length, positions pattern⟩

/-- The layouts of the patterns that the dispatcher relies on. -/
def ownerLayout : MyCommand → Option Layout
  | .stationRename => some ⟨5, 5, 5, 2, 4, 5, 5, 5⟩
  | .stationCreateBySong => some ⟨4, 5, 3, 5, 5, 4, 5, 5⟩
  | .stationCreateBySongWName => some ⟨6, 7, 5, 7, 3, 6, 7, 7⟩
  | .stationCreate => some ⟨5, 5, 5, 5, 5, 5, 4, 5⟩
  | .stationCreateWName => some ⟨7, 7, 7, 7, 3, 7, 6, 7⟩
  | .stationCreateById => some ⟨5, 5, 5, 5, 5, 5, 5, 4⟩
  | .stationCreateByIdWName => some ⟨7, 7, 7, 7, 3, 7, 7, 6⟩
  | .seedAdd => some ⟨5, 5, 5, 5, 5, 5, 4, 5⟩
  | .seedAddWStation => some ⟨7, 7, 7, 6, 7, 7, 4, 7⟩
  | .seedAddBySong => some ⟨5, 6, 1, 6, 6, 5, 6, 6⟩
  | .seedAddBySongWStation => some ⟨7, 8, 1, 4, 8, 7, 8, 8⟩
  | .seedDeleteBySong => some ⟨3, 4, 1, 4, 4, 3, 4, 4⟩
  | _ => none

private theorem mem_ownerStatements : ∀ statement ∈ (allStatements ⟨true, true⟩).flatten,
    (ownerLayout statement.command).isSome = true → statement ∈ ownerStatements := by
  decide +kernel

private theorem layout_ownerStatements : ∀ statement ∈ ownerStatements,
    (ownerLayout statement.command).isSome = true →
      ownerLayout statement.command = some (layout (patternWords statement.pattern)) ∧
        Fixed (patternWords statement.pattern) := by
  decide +kernel

/-! ## The terms that are read -/

section

variable {argv : List Text}

/-- A term that is there is read. -/
theorem required_map {α : Type} {index : Nat} (inside : index < argv.length) (read : Text → α) :
    ∃ term, argv[index]? = some term ∧ (required argv index).map read = .ok (read term) := by
  refine ⟨argv[index], List.getElem?_eq_getElem inside, ?_⟩
  rw [required, List.getElem?_eq_getElem inside]
  rfl

/-- The call for a command reads the terms of its placeholders, but for one pattern. -/
theorem ownerCall_reads {command : MyCommand} {layout : Layout}
    (laid : ownerLayout command = some layout) (least : layout.least ≤ argv.length)
    (most : argv.length ≤ layout.most) (other : command ≠ .stationCreateBySongWName) :
    ∃ call, ownerCall argv command = .ok (some call) ∧
      call.Reads (layout.positions.terms argv) := by
  have inside : ∀ index, index < layout.least → index < argv.length :=
    fun index below => below.trans_le least
  unfold ownerLayout at laid
  split at laid <;> cases laid
  case h_1 =>
    have first : 2 < argv.length := inside 2 (by decide)
    obtain ⟨newName, second, renames⟩ := required_map (inside 4 (by decide))
      fun newName => some (OwnerCall.renameStation argv[2] newName)
    refine ⟨.renameStation argv[2] newName, ?_, List.getElem?_eq_getElem first, second⟩
    rw [ownerCall, required, List.getElem?_eq_getElem first]
    exact renames
  case h_2 =>
    have absent : argv[5]? = none := List.getElem?_eq_none most
    obtain ⟨keyword, given, reads⟩ := required_map (inside 3 (by decide))
      fun keyword => some (OwnerCall.createStationFromSong none (isArtist keyword) argv[4]?)
    exact ⟨_, reads, absent, absent, congrArg (Option.map isArtist) given, rfl⟩
  case h_3 => exact absurd rfl other
  case h_4 =>
    have absent : argv[5]? = none := List.getElem?_eq_none most
    obtain ⟨suggestionId, given, reads⟩ := required_map (inside 4 (by decide))
      fun suggestionId => some (OwnerCall.createStationFromSuggestion none suggestionId)
    exact ⟨_, reads, absent, absent, given⟩
  case h_5 =>
    have absent : argv[7]? = none := List.getElem?_eq_none most
    obtain ⟨suggestionId, given, reads⟩ := required_map (inside 6 (by decide))
      fun suggestionId => some (OwnerCall.createStationFromSuggestion argv[3]? suggestionId)
    exact ⟨_, reads, absent, rfl, given⟩
  case h_6 =>
    have absent : argv[5]? = none := List.getElem?_eq_none most
    obtain ⟨stationId, given, reads⟩ := required_map (inside 4 (by decide))
      fun stationId => some (OwnerCall.createStationFromShared none stationId)
    exact ⟨_, reads, absent, absent, given⟩
  case h_7 =>
    have absent : argv[7]? = none := List.getElem?_eq_none most
    obtain ⟨stationId, given, reads⟩ := required_map (inside 6 (by decide))
      fun stationId => some (OwnerCall.createStationFromShared argv[3]? stationId)
    exact ⟨_, reads, absent, rfl, given⟩
  case h_8 =>
    have absent : argv[5]? = none := List.getElem?_eq_none most
    obtain ⟨suggestionId, given, reads⟩ := required_map (inside 4 (by decide))
      fun suggestionId => some (OwnerCall.addSeed none suggestionId)
    exact ⟨_, reads, absent, given⟩
  case h_9 =>
    obtain ⟨suggestionId, given, reads⟩ := required_map (inside 4 (by decide))
      fun suggestionId => some (OwnerCall.addSeed argv[6]? suggestionId)
    exact ⟨_, reads, rfl, given⟩
  case h_10 =>
    have absent : argv[6]? = none := List.getElem?_eq_none most
    obtain ⟨keyword, given, reads⟩ := required_map (inside 1 (by decide))
      fun keyword => some (OwnerCall.addSongSeed none (isArtist keyword) argv[5]?)
    exact ⟨_, reads, absent, congrArg (Option.map isArtist) given, rfl⟩
  case h_11 =>
    obtain ⟨keyword, given, reads⟩ := required_map (inside 1 (by decide))
      fun keyword => some (OwnerCall.addSongSeed argv[4]? (isArtist keyword) argv[7]?)
    exact ⟨_, reads, rfl, congrArg (Option.map isArtist) given, rfl⟩
  case h_12 =>
    obtain ⟨keyword, given, reads⟩ := required_map (inside 1 (by decide))
      fun keyword => some (OwnerCall.removeSongSeed (isArtist keyword) argv[3]?)
    exact ⟨_, reads, congrArg (Option.map isArtist) given, rfl⟩

/-- The call for the remaining pattern reads its name for its keyword. -/
theorem ownerCall_stationCreateBySongWName (least : 6 ≤ argv.length) (most : argv.length ≤ 7)
    (world : World) (server : Server) (session : Nat) :
    ∃ call, ownerCall argv .stationCreateBySongWName = .ok (some call) ∧
      ((∀ requests, call.requests world server session = .ok requests → ∀ request ∈ requests,
          request.Fits world server session (Placeholders.terms ⟨5, 7, 3, 6, 7, 7⟩ argv)) ↔
        ((server.songMeant session argv[6]?).isSome →
          argv[3]?.map isArtist = argv[5]?.map isArtist)) := by
  have absent : argv[7]? = none := List.getElem?_eq_none most
  obtain ⟨name, named, calls⟩ := required_map (show 3 < argv.length by omega)
    fun keyword => some (OwnerCall.createStationFromSong argv[3]? (isArtist keyword) argv[6]?)
  obtain ⟨keyword, given, -⟩ := required_map (show 5 < argv.length by omega) isArtist
  refine ⟨_, calls, ?_⟩
  have fit := @Server.createStationFromSongRequests_fit_iff world server session
    (Placeholders.terms ⟨5, 7, 3, 6, 7, 7⟩ argv) argv[3]? argv[6]? (isArtist name) keyword absent
    rfl given rfl
  rw [named, given, Option.map_some, Option.map_some, Option.some_inj, ← fit, named]
  constructor
  · exact fun fits => fits _ rfl
  · intro fits requests sent
    cases sent
    exact fits

/-- A command that has its name asks for a kind which its keyword does not ask for, about a song
that there is. -/
def Misreads (server : Server) (session : Nat) (argv : List Text) (command : MyCommand) : Prop :=
  command = .stationCreateBySongWName ∧ server.app.haveRank session .listener = true ∧
    server.app.havePrivilege session .manager = true ∧
    (server.songMeant session argv[6]?).isSome = true ∧
    argv[3]?.map isArtist ≠ argv[5]?.map isArtist

end

theorem MyCommand.ofNumber_number {features : Features} {command : MyCommand}
    (declared : command ∈ declared features) :
    ofNumber features (command.number features) = some command := by
  cases found : ofNumber features (command.number features) with
  | none =>
      have unlike := List.find?_eq_none.mp found command declared
      simp at unlike
  | some other =>
      have same := List.find?_some found
      have listed := List.mem_of_find?_eq_some found
      rw [(MyCommand.number_inj listed).mp (of_decide_eq_true same)]

/-- Whatever a user commands by one of the patterns, the requests fit the placeholders of the
pattern that matches, unless the name is read for the keyword; and what the command does depends on
the outcomes of no others, but for those that refresh the cached details. -/
theorem ownerRequests_fit_iff {doubles : Doubles} {features : Features} {parser : Parser doubles}
    (built : initParser doubles features = .ok parser) {command : MyCommand}
    (laid : (ownerLayout command).isSome = true) {argv : List Text}
    (accepted : (fbInterpret parser argv).1 = command.number features) (world : World)
    (server : Server) (session : Nat) :
    ∃ statement ∈ (allStatements features).flatten, statement.command = command ∧
      Matches doubles (patternWords statement.pattern) argv ∧
      ((∀ requests,
          ownerRequests features parser world server session argv = .ok requests →
          ∀ request ∈ requests, request.Fits world server session
            ((positions (patternWords statement.pattern)).terms argv)) ↔
        ¬Misreads server session argv command) ∧
      ∀ call requests, ownerCall argv command = .ok (some call) →
        call.requests world server session = .ok requests →
        call.DependsOn world server session requests := by
  obtain ⟨statement, listed, rfl, allowed⟩ :=
    (fbInterpret_number_iff built command argv).mp accepted
  obtain ⟨found, fixed⟩ := layout_ownerStatements statement
    (mem_ownerStatements statement (mem_allStatements listed) laid) laid
  obtain ⟨least, most, -⟩ := allowed.aligned fixed
  refine ⟨statement, listed, rfl, allowed, ?_, fun _ _ _ => OwnerCall.dependsOn_requests⟩
  unfold ownerRequests
  rw [accepted, MyCommand.ofNumber_number (statement.declared listed)]
  simp only
  by_cases ranked : server.app.haveRank session .listener
  · by_cases privileged : server.app.havePrivilege session .manager
    · simp only [ranked, privileged, Bool.not_true, Bool.false_eq_true, if_false]
      by_cases named : statement.command = .stationCreateBySongWName
      · rw [named] at found ⊢
        have laid := Option.some.inj found
        obtain ⟨call, called, fits⟩ := @ownerCall_stationCreateBySongWName argv
          ((congrArg Layout.least laid).trans_le least)
          (most.trans_eq (congrArg Layout.most laid).symm) world server session
        rw [show positions (patternWords statement.pattern) = _ from
          (congrArg Layout.positions laid).symm, called]
        refine fits.trans ⟨fun right misread => ?_, fun right there => ?_⟩
        · exact misread.2.2.2.2 (right misread.2.2.2.1)
        · by_contra different
          exact right ⟨rfl, ranked, privileged, there, different⟩
      · obtain ⟨call, called, reads⟩ := ownerCall_reads found least most named
        rw [called]
        exact iff_of_true (fun requests sent request member => reads.fit sent member)
          fun misread => named misread.1
    · simp only [ranked, privileged, Bool.not_true, Bool.false_eq_true, if_false, Bool.not_false,
        if_true]
      exact iff_of_true (fun requests sent request member => by cases sent; cases member)
        fun misread => privileged misread.2.2.1
  · simp only [ranked, Bool.not_false, if_true]
    exact iff_of_true (fun requests sent request member => by cases sent; cases member)
      fun misread => ranked misread.2.1

/-- An administrator listens to a song. -/
def sampleOwner : Server where
  app := { sampleApplication .administrator with
    currentSong := some
      { address := 9
        audioUrl := none
        audioFormat := .mp3
        trackToken := ascii "t"
        musicId := none
        feedbackId := none
        seedId := none
        artist := ascii "Ann"
        title := ascii "Song"
        album := none
        coverArt := none
        detailUrl := none
        stationId := ascii "r"
        rating := .none } }
  sent := []

def namedMellow : List Text :=
  [ascii "create", ascii "station", ascii "named", ascii "Mellow", ascii "from", ascii "artist"]

def renameRock : List Text :=
  [ascii "rename", ascii "station", ascii "rock", ascii "to", ascii "Roll"]

private theorem statement_namedMellow : ∃ statement ∈ (allStatements ⟨false, false⟩).flatten,
    statement.command = .stationCreateBySongWName ∧
      Matches noDoubles (patternWords statement.pattern) namedMellow ∧
      positions (patternWords statement.pattern) = ⟨5, 7, 3, 6, 7, 7⟩ := by
  decide +kernel

private theorem statement_renameRock : ∃ statement ∈ (allStatements ⟨false, false⟩).flatten,
    statement.command = .stationRename ∧
      Matches noDoubles (patternWords statement.pattern) renameRock := by
  decide +kernel

theorem ownerRequests_renameRock : ∃ parser, initParser noDoubles ⟨false, false⟩ = .ok parser ∧
    (ownerLayout .stationRename).isSome = true ∧
    (fbInterpret parser renameRock).1 = MyCommand.stationRename.number ⟨false, false⟩ ∧
    ∃ statement ∈ (allStatements ⟨false, false⟩).flatten, statement.command = .stationRename ∧
      Matches noDoubles (patternWords statement.pattern) renameRock ∧
      ((∀ requests, ownerRequests ⟨false, false⟩ parser (sampleWorld []) sampleOwner 0 renameRock =
          .ok requests → ∀ request ∈ requests, request.Fits (sampleWorld []) sampleOwner 0
            ((positions (patternWords statement.pattern)).terms renameRock)) ↔
        ¬Misreads sampleOwner 0 renameRock .stationRename) ∧
      ∀ call requests, ownerCall renameRock .stationRename = .ok (some call) →
        call.requests (sampleWorld []) sampleOwner 0 = .ok requests →
        call.DependsOn (sampleWorld []) sampleOwner 0 requests := by
  obtain ⟨parser, built, -⟩ := initParser_recognises noDoubles ⟨false, false⟩
  have accepted := (fbInterpret_number_iff built .stationRename renameRock).mpr statement_renameRock
  exact ⟨parser, built, rfl, accepted,
    ownerRequests_fit_iff built rfl accepted (sampleWorld []) sampleOwner 0⟩

/-- Somebody asks for a station like the artist, and gets one like the song. -/
theorem ownerRequests_namedMellow : ∃ parser, initParser noDoubles ⟨false, false⟩ = .ok parser ∧
    ∃ statement ∈ (allStatements ⟨false, false⟩).flatten,
      statement.command = .stationCreateBySongWName ∧
      (fbInterpret parser namedMellow).1 = statement.command.number ⟨false, false⟩ ∧
      Matches noDoubles (patternWords statement.pattern) namedMellow ∧
      ∃ requests, ownerRequests ⟨false, false⟩ parser (sampleWorld []) sampleOwner 0 namedMellow =
          .ok (.createStation (ascii "t") .song :: requests) ∧
        ¬(OwnerRequest.createStation (ascii "t") .song).Fits (sampleWorld []) sampleOwner 0
          ((positions (patternWords statement.pattern)).terms namedMellow) := by
  obtain ⟨parser, built, -⟩ := initParser_recognises noDoubles ⟨false, false⟩
  obtain ⟨statement, listed, named, allowed, places⟩ := statement_namedMellow
  have accepted := (fbInterpret_number_iff built .stationCreateBySongWName namedMellow).mpr
    ⟨statement, listed, named, allowed⟩
  refine ⟨parser, built, statement, listed, named, named ▸ accepted, allowed, ?_⟩
  have known := MyCommand.ofNumber_number (statement.declared listed)
  rw [named] at known
  rw [ownerRequests, accepted, known, places]
  refine ⟨[.transformStation ⟨2, ascii "Folk", ascii "f", false, false⟩,
    .renameStation ⟨2, ascii "Folk", ascii "f", false, false⟩ (ascii "Mellow")], ?_, ?_⟩
  · rfl
  · rintro ⟨keyword, song, given, exactly, -⟩
    cases given
    revert exactly
    decide

end Pianod
