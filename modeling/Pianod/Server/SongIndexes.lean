import Pianod.Server.NumericSettings

/-!
# Songs by index

The history and the queue can be asked for one song by its index; a negative index is for the other
list, and zero for the current song.  The grammar lets any number through, but an index is an `int`.
-/

namespace Pianod

open Foundation Football

/-- The song for an index, or the answer if there is none. -/
def Application.indexedSong (app : Application) (history : Bool) (index : Int) :
    Except ResponseCode SongPlace :=
  if index = 0 then
    if app.currentSong.isSome then .ok .current else .error .eWrongState
  else if history = decide (0 < index) then
    if index.natAbs ≤ app.songHistory.length then .ok (.history (index.natAbs - 1))
    else .error .eNotFound
  else if index.natAbs ≤ app.playlist.length then .ok (.playlist (index.natAbs - 1))
  else .error .eNotFound

/-- The index among the terms of a command, if there is one. -/
def queryIndex (argv : List Text) : Option Int := argv[1]?.map atoi

/-- The command that lists songs, read from its terms. -/
def queryCommand (history : Bool) (argv : List Text) : Command :=
  if history then .queryHistory (queryIndex argv) else .queryQueue (queryIndex argv)

def queryName (history : Bool) : MyCommand := if history then .queryHistory else .queryQueue

namespace Server

/-- Show the song at a place. -/
def showSong (server : Server) (session : Nat) (place : SongPlace) (song : PianoSong) : Server :=
  match place with
  | .current => server.sendSongList session [song]
  | .history _ | .playlist _ =>
      ((((server.reply session .sData).sendSongInfo (.connection session)
        song).sendStationRating session).reply session .sDataEnd)

/-- Reply with a code, or show the song at a place. -/
def tell (server : Server) (session : Nat) : Except ResponseCode SongPlace → Server
  | .error code => server.reply session code
  | .ok place =>
      match server.app.songAt place with
      | none => server
      | some song => server.showSong session place song

/-- A command with an index shows the song for it. -/
theorem sendSongLists_eq (server : Server) (session : Nat) (history : Bool) (index : Int) :
    server.sendSongLists session history (some index) =
      server.tell session (server.app.indexedSong history index) := by
  rw [sendSongLists, Application.indexedSong]
  by_cases zero : index = 0
  · simp only [zero, if_true]
    cases current : server.app.currentSong with
    | none => rfl
    | some song => simp [tell, Application.songAt, current, showSong]
  have positive : 0 < index.natAbs := Int.natAbs_pos.mpr zero
  simp only [zero, if_false]
  by_cases own : history = decide (0 < index)
  · rw [if_pos own, if_pos own]
    by_cases within : index.natAbs ≤ server.app.songHistory.length
    · have there := List.getElem?_eq_getElem
        (show index.natAbs - 1 < server.app.songHistory.length by omega)
      rw [if_pos within]
      simp only [tell, Application.songAt, there, showSong]
    · rw [if_neg within, List.getElem?_eq_none (by omega)]
      rfl
  · rw [if_neg own, if_neg own]
    by_cases within : index.natAbs ≤ server.app.playlist.length
    · have there := List.getElem?_eq_getElem
        (show index.natAbs - 1 < server.app.playlist.length by omega)
      rw [if_pos within]
      simp only [tell, Application.songAt, there, showSong]
    · rw [if_neg within, List.getElem?_eq_none (by omega)]
      rfl

private theorem executeListener_query (server : Server) (world : World) (crypt : Text → Text → Text)
    (session : Nat) (history : Bool) (argv : List Text) :
    server.executeListener world crypt session (queryCommand history argv) =
      some (.ok (server.sendSongLists session history (queryIndex argv))) := by
  cases history <;> rfl

end Server

/-! ## The terms -/

/-- Terms are accepted that ask one of the lists for the song with a number. -/
structure Asks {doubles : Doubles} (features : Features) (parser : Parser doubles) (history : Bool)
    (argv : List Text) (number : Int) : Prop where
  accepted : (fbInterpret parser argv).1 = (queryName history).number features
  denotes : ∃ term, argv[1]? = some term ∧ numberOf term = some number

/-- What is answered to terms with an index. -/
def Application.answer (app : Application) (history : Bool) (argv : List Text) :
    Option (Except ResponseCode SongPlace) :=
  (queryIndex argv).map (app.indexedSong history)

private theorem Server.executeListener_answer (server : Server) (world : World)
    (crypt : Text → Text → Text) (session : Nat) (history : Bool) {argv : List Text}
    {answer : Except ResponseCode SongPlace}
    (answered : server.app.answer history argv = some answer) :
    server.executeListener world crypt session (queryCommand history argv) =
      some (.ok (server.tell session answer)) := by
  obtain ⟨index, given, rfl⟩ := Option.map_eq_some_iff.mp answered
  rw [executeListener_query, given, sendSongLists_eq]

/-- What a number becomes as an index. -/
def indexOf (number : Int) : Int := Int.bmod (saturate number) (2 ^ 32)

private theorem atoi_of_numberOf {term : Text} {number : Int}
    (spells : numberOf term = some number) : atoi term = indexOf number := by
  have read : numberOf (skipLead term) = some number := by
    rw [skipLead_of_numberOf spells]
    exact spells
  rw [atoi, strtol_of_numberOf read]
  rfl

/-- The pattern of the command. -/
def queryStatement : Bool → Statement
  | true => ⟨.queryHistory, utf8 "history [\x7b#index\x7d]"⟩
  | false => ⟨.queryQueue, utf8 "queue [\x7b#index\x7d]"⟩

private theorem queryStatement_listed (features : Features) (history : Bool) :
    queryStatement history ∈ (allStatements features).flatten := by
  refine List.mem_flatten.mpr ⟨listenerStatements, by simp [allStatements], ?_⟩
  cases history <;> simp [listenerStatements, queryStatement]

private theorem words_queryStatement (history : Bool) : ∃ word,
    patternWords (queryStatement history).pattern =
      [word, 91 :: (numberBlank (ascii "index") ++ [93])] ∧
    isOptionalBlank word = false ∧ word ≠ ellipsis ∧ isBlank word = false ∧
    isOptional word = false ∧ isAlternation word = false := by
  cases history
  · exact ⟨utf8 "queue", by decide⟩
  · exact ⟨utf8 "history", by decide⟩

/-- Every number can be asked for. -/
theorem exists_asks {doubles : Doubles} {features : Features} {parser : Parser doubles}
    (built : initParser doubles features = .ok parser) (history : Bool) (number : Int) :
    ∃ argv, Asks features parser history argv number := by
  obtain ⟨word, words, plain⟩ := words_queryStatement history
  refine ⟨[word, decimalText number], ?_, _, rfl, numberOf_decimalText number⟩
  refine (fbInterpret_number_iff built _ _).mpr
    ⟨_, queryStatement_listed features history, by cases history <;> rfl, ?_⟩
  have blank : BlankAccepts doubles (numberBlank (ascii "index")) (decimalText number) := by
    refine ⟨_, blankType_numberBlank doubles (by decide), ?_⟩
    have numeric : isNumeric (decimalText number) = true :=
      (isNumeric_iff _).mpr (.inl ⟨number, numberOf_decimalText number⟩)
    rw [ValueType.accepts, ValueType.check, numeric]
    rfl
  have inside : insideBrackets (91 :: (numberBlank (ascii "index") ++ [93])) =
      numberBlank (ascii "index") := by
    simp [insideBrackets]
  obtain ⟨needed, more, plain, always, single⟩ := plain
  rw [words, Matches, if_neg (by simp [needed]), if_neg more, if_neg (by simp [plain]),
    if_neg (by simp [always]), if_neg (by simp [single])]
  refine ⟨word, _, rfl, Text.strcasecmp_self word, ?_⟩
  rw [Matches, if_pos (by decide), inside]
  exact .inr ⟨_, _, rfl, blank, rfl⟩

/-- What is answered depends on the index that the number becomes. -/
theorem Asks.answer_eq {doubles : Doubles} {features : Features} {parser : Parser doubles}
    {history : Bool} {argv : List Text} {number : Int}
    (asks : Asks features parser history argv number) (app : Application) :
    app.answer history argv = some (app.indexedSong history (indexOf number)) := by
  obtain ⟨term, given, spells⟩ := asks.denotes
  rw [Application.answer, queryIndex, given, Option.map_some, Option.map_some,
    atoi_of_numberOf spells]

/-! ## Numbers as indexes -/

private theorem indexOf_eq {number : Int} (small : number.natAbs < 2 ^ 31) :
    indexOf number = number := by
  have order : longMin < -2 ^ 31 ∧ 2 ^ 31 < longMax := by decide
  rw [indexOf, saturate_of_fits ⟨by omega, by omega⟩]
  exact Int.bmod_eq_of_le (by omega) (by omega)

theorem indexOf_of_long {number : Int} (fits : number.natAbs < 2 ^ 63) :
    indexOf number = number.bmod (2 ^ 32) := by
  have limits : longMin = -2 ^ 63 ∧ longMax = 2 ^ 63 - 1 := by decide
  rw [indexOf, saturate_of_fits ⟨by omega, by omega⟩]

theorem natAbs_indexOf {number : Int} (fits : number.natAbs < 2 ^ 63) :
    (indexOf number).natAbs = ((number.natAbs : Int).bmod (2 ^ 32)).natAbs := by
  rw [indexOf_of_long fits]
  rcases Int.natAbs_eq number with same | opposite
  · rw [← same]
  · rw [opposite]
    generalize number.natAbs = magnitude
    simp only [Int.bmod, Int.natAbs_neg, Int.natAbs_natCast]
    split_ifs <;> omega

private theorem indexOf_of_large {number : Int} (large : 2 ^ 63 ≤ number.natAbs) :
    indexOf number = if number < 0 then 0 else -1 := by
  have limits : longMin = -2 ^ 63 ∧ longMax = 2 ^ 63 - 1 := by decide
  rw [indexOf, saturate_eq]
  by_cases negative : number < 0
  · by_cases least : number < longMin
    · rw [if_pos least, if_pos negative]
      rfl
    · have same : number = longMin := by omega
      rw [if_neg least, if_neg (by omega), if_pos negative, same]
      rfl
  · rw [if_neg (by omega), if_pos (by omega), if_neg negative]
    rfl

variable {app : Application} {history : Bool} {index : Int}

theorem indexedSong_of_beyond (beyond : app.songHistory.length < index.natAbs)
    (behind : app.playlist.length < index.natAbs) :
    app.indexedSong history index = .error .eNotFound := by
  have other : index ≠ 0 := by
    rintro rfl
    cases beyond
  rw [Application.indexedSong, if_neg other]
  by_cases own : history = decide (0 < index)
  · rw [if_pos own, if_neg (by omega)]
  · rw [if_neg own, if_neg (by omega)]

theorem indexedSong_neg (app : Application) (history : Bool) (index : Int) :
    app.indexedSong (!history) (-index) = app.indexedSong history index := by
  by_cases zero : index = 0
  · rw [zero]
    rfl
  have sides : (!history) = decide (0 < -index) ↔ history = decide (0 < index) := by
    rcases Int.lt_or_gt_of_ne zero with negative | positive
    · simp [negative, show ¬0 < index by omega]
    · simp [positive, show ¬index < 0 by omega]
  simp only [Application.indexedSong, Int.neg_eq_zero, zero, if_false, sides, Int.natAbs_neg]

theorem indexedSong_zero_ne {history other : Bool} (more : index ≠ 0) :
    app.indexedSong history 0 ≠ app.indexedSong other index := by
  rw [Application.indexedSong, if_pos rfl, Application.indexedSong, if_neg more]
  split_ifs <;> nofun

/-- An index that finds something in a list is the only one that finds it. -/
theorem indexedSong_within_ne {other : Int} (found : index ≠ 0)
    (within : index.natAbs ≤
      if history = decide (0 < index) then app.songHistory.length else app.playlist.length)
    (positive : 0 < other) (apart : index.natAbs < other.natAbs ∨ index < 0) :
    app.indexedSong history index ≠ app.indexedSong history other := by
  have none : other ≠ 0 := by omega
  have side : decide (0 < other) = true := decide_eq_true positive
  intro same
  rw [Application.indexedSong, if_neg found, Application.indexedSong, if_neg none, side] at same
  by_cases own : history = decide (0 < index)
  · rw [if_pos own] at within
    rw [if_pos own, if_pos within] at same
    split_ifs at same with forward
    · have place : index.natAbs - 1 = other.natAbs - 1 := by simpa using same
      have above : 0 < index := of_decide_eq_true (own.symm.trans forward)
      omega
    · cases same
  · rw [if_neg own] at within
    rw [if_neg own, if_pos within] at same
    split_ifs at same with forward
    · cases same
    · have place : index.natAbs - 1 = other.natAbs - 1 := by simpa using same
      have above : 0 < index := by
        by_contra below
        rw [decide_eq_false below] at own
        exact forward (Bool.eq_true_of_not_eq_false own)
      omega

/-- What an index must be for its number to be right: it fits an `int`, or it fits a `long` and what
remains of it is beyond both lists. -/
def Application.RightIndex (app : Application) (magnitude : Nat) : Prop :=
  magnitude < 2 ^ 31 ∨ magnitude < 2 ^ 63 ∧
    app.songHistory.length < ((magnitude : Int).bmod (2 ^ 32)).natAbs ∧
    app.playlist.length < ((magnitude : Int).bmod (2 ^ 32)).natAbs

private theorem Application.RightIndex.indexedSong_eq {magnitude : Nat}
    (right : app.RightIndex magnitude) {number : Int} (same : number.natAbs = magnitude) :
    app.indexedSong history (indexOf number) = app.indexedSong history number := by
  rcases right with small | ⟨fits, beyond, behind⟩
  · rw [indexOf_eq (by omega)]
  · have bounded : ((magnitude : Int).bmod (2 ^ 32)).natAbs ≤ magnitude := by
      simp only [Int.bmod]
      split_ifs <;> omega
    have size := natAbs_indexOf (show number.natAbs < 2 ^ 63 by omega)
    rw [same] at size
    rw [indexedSong_of_beyond (by omega) (by omega), indexedSong_of_beyond (by omega) (by omega)]

private theorem Application.RightIndex.of_indexedSong_eq {magnitude : Nat}
    (answers : ∀ number : Int, number.natAbs = magnitude → ∀ history,
      app.indexedSong history (indexOf number) = app.indexedSong history number) :
    app.RightIndex magnitude := by
  by_contra wrong
  obtain ⟨large, exposed⟩ := not_or.mp wrong
  by_cases fits : magnitude < 2 ^ 63
  · have bounds : (indexOf magnitude).natAbs ≤ 2 ^ 31 ∧ indexOf magnitude < 2 ^ 31 := by
      rw [indexOf_of_long (by omega)]
      simp only [Int.bmod]
      split_ifs <;> omega
    have size := natAbs_indexOf (show (magnitude : Int).natAbs < 2 ^ 63 by omega)
    rw [Int.natAbs_natCast] at size
    have meant : ∀ history, app.indexedSong history (indexOf magnitude) =
        app.indexedSong history magnitude := answers magnitude (Int.natAbs_natCast _)
    by_cases zero : indexOf magnitude = 0
    · have current := meant true
      rw [zero] at current
      exact indexedSong_zero_ne (by omega) current
    have apart : (indexOf magnitude).natAbs < (magnitude : Int).natAbs ∨ indexOf magnitude < 0 := by
      omega
    have within (history : Bool) (short : (indexOf magnitude).natAbs ≤
        if history = decide (0 < indexOf magnitude) then app.songHistory.length
        else app.playlist.length) : False :=
      indexedSong_within_ne zero short (by omega) apart (meant history)
    rcases not_and_or.mp (not_and.mp exposed fits) with short | short
    · refine within (decide (0 < indexOf magnitude)) ?_
      rw [if_pos rfl, size]
      exact Nat.le_of_not_lt short
    · refine within (!decide (0 < indexOf magnitude)) ?_
      rw [if_neg (by simp), size]
      exact Nat.le_of_not_lt short
  · -- The opposite number becomes zero.
    have opposite := answers (-magnitude) (by omega) true
    rw [indexOf_of_large (by omega), if_pos (by omega)] at opposite
    exact indexedSong_zero_ne (by omega) opposite

/-! ## What the commands promise -/

/-- The songs of one index: the queue and the history agree up to the sign; a positive index is the
place of a song from the near end of its list, and zero is for the current song.  The handler of the
command does what is answered. -/
structure IndexAnswered {doubles : Doubles} (features : Features) (parser : Parser doubles)
    (app : Application) (number : Int) : Prop where
  agree : ∀ queue history, Asks features parser false queue number →
    Asks features parser true history (-number) → app.answer false queue = app.answer true history
  history : 0 < number → ∀ argv, Asks features parser true argv number →
    app.answer true argv = some (if number ≤ app.songHistory.length
      then .ok (.history (number.toNat - 1)) else .error .eNotFound)
  queue : 0 < number → ∀ argv, Asks features parser false argv number →
    app.answer false argv = some (if number ≤ app.playlist.length
      then .ok (.playlist (number.toNat - 1)) else .error .eNotFound)
  current : number = 0 → ∀ history argv, Asks features parser history argv number →
    app.answer history argv = some (if app.currentSong.isSome
      then .ok .current else .error .eWrongState)
  handled : ∀ (server : Server) world crypt session history argv, server.app = app →
    Asks features parser history argv number → ∃ answer, app.answer history argv = some answer ∧
      server.executeListener world crypt session (queryCommand history argv) =
        some (.ok (server.tell session answer))

theorem indexedSong_history (positive : 0 < index) :
    app.indexedSong true index = if index ≤ app.songHistory.length
      then .ok (.history (index.toNat - 1)) else .error .eNotFound := by
  obtain ⟨count, rfl⟩ := Int.eq_ofNat_of_zero_le positive.le
  have above : 0 < count := Int.natCast_pos.mp positive
  simp [Application.indexedSong, above, above.ne']

theorem indexedSong_playlist (positive : 0 < index) :
    app.indexedSong false index = if index ≤ app.playlist.length
      then .ok (.playlist (index.toNat - 1)) else .error .eNotFound := by
  obtain ⟨count, rfl⟩ := Int.eq_ofNat_of_zero_le positive.le
  have above : 0 < count := Int.natCast_pos.mp positive
  simp [Application.indexedSong, above, above.ne']

/-- For every state and every magnitude of an index, all the answers are right just if the number is
right as an index. -/
theorem indexAnswered_iff {doubles : Doubles} {features : Features} {parser : Parser doubles}
    (built : initParser doubles features = .ok parser) (app : Application) (magnitude : Nat) :
    (∀ number : Int, number.natAbs = magnitude → IndexAnswered features parser app number) ↔
      app.RightIndex magnitude := by
  constructor
  · intro answered
    have forward {number : Int} (size : number.natAbs = magnitude) (positive : 0 < number)
        (history : Bool) :
        app.indexedSong history (indexOf number) = app.indexedSong history number := by
      obtain ⟨argv, asks⟩ := exists_asks built history number
      refine Option.some.inj ((asks.answer_eq app).symm.trans ?_)
      cases history with
      | false => rw [indexedSong_playlist positive, (answered number size).queue positive argv asks]
      | true => rw [indexedSong_history positive, (answered number size).history positive argv asks]
    have agreed {number : Int} (size : number.natAbs = magnitude) :
        app.indexedSong false (indexOf number) = app.indexedSong true (indexOf (-number)) := by
      obtain ⟨queue, asks⟩ := exists_asks built false number
      obtain ⟨history, other⟩ := exists_asks built true (-number)
      have same := (answered number size).agree queue history asks other
      rw [asks.answer_eq, other.answer_eq] at same
      exact Option.some.inj same
    refine .of_indexedSong_eq fun number same history => ?_
    rcases lt_trichotomy number 0 with negative | rfl | positive
    · have opposite := @forward (-number) (by omega) (by omega) (!history)
      rw [indexedSong_neg] at opposite
      rw [← opposite]
      cases history with
      | false => exact agreed same
      | true =>
          have back := @agreed (-number) (by omega)
          rw [neg_neg] at back
          exact back.symm
    · obtain ⟨argv, asks⟩ := exists_asks built history 0
      refine Option.some.inj ((asks.answer_eq app).symm.trans ?_)
      rw [(answered 0 same).current rfl history argv asks]
      rfl
    · exact forward same positive history
  · intro right number same
    have meant {history : Bool} {argv : List Text} {other : Int}
        (asks : Asks features parser history argv other) (size : other.natAbs = magnitude) :
        app.answer history argv = some (app.indexedSong history other) := by
      rw [asks.answer_eq, right.indexedSong_eq size]
    refine ⟨fun queue history asks other => ?_, fun positive argv asks => ?_,
      fun positive argv asks => ?_, fun zero history argv asks => ?_,
      fun server world crypt session history argv holds asks => ?_⟩
    · rw [meant asks same, meant other (by omega), ← indexedSong_neg app true (-number), neg_neg]
      rfl
    · rw [meant asks same, indexedSong_history positive]
    · rw [meant asks same, indexedSong_playlist positive]
    · rw [meant asks same, zero]
      rfl
    · subst holds
      exact ⟨_, meant asks same,
        server.executeListener_answer world crypt session history (meant asks same)⟩

/-- Indexes of magnitude three are answered right. -/
theorem indexAnswered_iff_three : ∃ parser,
    initParser noDoubles ⟨false, false⟩ = .ok parser ∧
    ∀ number : Int, number.natAbs = 3 →
      IndexAnswered ⟨false, false⟩ parser (sampleApplication .listener) number := by
  obtain ⟨parser, built, -⟩ := initParser_recognises noDoubles ⟨false, false⟩
  exact ⟨parser, built, (indexAnswered_iff built _ 3).mpr (.inl (by decide))⟩

/-- Asked for the song with number 4294967296, the queue answers as if it was asked for the current
song. -/
theorem answer_large : ∃ parser, initParser noDoubles ⟨false, false⟩ = .ok parser ∧
    (∃ argv, Asks ⟨false, false⟩ parser false argv 4294967296 ∧
      (sampleApplication .listener).answer false argv = some (.error .eWrongState)) ∧
    ¬IndexAnswered ⟨false, false⟩ parser (sampleApplication .listener) 4294967296 := by
  obtain ⟨parser, built, -⟩ := initParser_recognises noDoubles ⟨false, false⟩
  obtain ⟨argv, asks⟩ := exists_asks built false 4294967296
  have told : (sampleApplication .listener).answer false argv = some (.error .eWrongState) := by
    rw [asks.answer_eq]
    rfl
  refine ⟨parser, built, ⟨argv, asks, told⟩, fun answered => ?_⟩
  have meant := answered.queue (by decide) argv asks
  rw [told] at meant
  cases meant

end Pianod
