import Pianod.Server.StationCommands

/-!
# Refreshing the station list

A refreshed list replaces the old one only if the server gave it.  The two lists are compared in two
passes, one for the stations that went and one for those that came; the selected station is looked
up again by its id.
-/

namespace Pianod

open Foundation

/-- What a comparison has found so far. -/
structure StationFlags where
  /-- Whether a station joined or left the mix. -/
  quickMixChanged : Bool
  /-- Whether there is a new station. -/
  stationAdded : Bool
  /-- Whether a station is gone. -/
  stationRemoved : Bool
deriving DecidableEq, Repr

/-- Whether a list has no station with the id of a record. -/
def missingFrom (stations : List StationCell) (cell : StationCell) : Bool :=
  (pianoFindStationById stations cell.station.id).isNone

/-- Whether a record's mix flag is another than in a list, where a missing station has none. -/
def mixedOtherwise (stations : List StationCell) (cell : StationCell) : Bool :=
  match pianoFindStationById stations cell.station.id with
  | some other => other.station.useQuickMix != cell.station.useQuickMix
  | none => cell.station.useQuickMix

/-- Check whether a past station was removed. -/
def checkRemoved (newStations : List StationCell) (flags : StationFlags) (past : StationCell) :
    StationFlags :=
  match pianoFindStationById newStations past.station.id with
  | some present =>
      { flags with quickMixChanged :=
          flags.quickMixChanged || present.station.useQuickMix != past.station.useQuickMix }
  | none =>
      { flags with
        stationRemoved := true
        quickMixChanged := if past.station.useQuickMix then true else flags.quickMixChanged }

/-- Check whether a present station was added. -/
def checkAdded (oldStations : List StationCell) (flags : StationFlags) (present : StationCell) :
    StationFlags :=
  match pianoFindStationById oldStations present.station.id with
  | some past =>
      { flags with quickMixChanged :=
          flags.quickMixChanged || present.station.useQuickMix != past.station.useQuickMix }
  | none =>
      { flags with
        stationAdded := true
        quickMixChanged := if present.station.useQuickMix then true else flags.quickMixChanged }

/-- Compare two station lists and determine what, if anything, has changed. -/
def checkForStationChanges (oldStations newStations : List StationCell) :
    List ResponseCode × Bool :=
  let flags := newStations.foldl (checkAdded oldStations)
    (oldStations.foldl (checkRemoved newStations) ⟨false, false, false⟩)
  ((if flags.stationAdded || flags.stationRemoved then [.iStationsChanged] else []) ++
      (if flags.quickMixChanged then [.iMixChanged] else []),
    flags.quickMixChanged || flags.stationAdded || flags.stationRemoved)

theorem foldl_checkRemoved (newStations : List StationCell) (flags : StationFlags)
    (past : List StationCell) :
    past.foldl (checkRemoved newStations) flags =
      ⟨flags.quickMixChanged || past.any (mixedOtherwise newStations), flags.stationAdded,
        flags.stationRemoved || past.any (missingFrom newStations)⟩ := by
  induction past generalizing flags with
  | nil => simp
  | cons cell past induction =>
      rw [List.foldl_cons, induction]
      cases found : pianoFindStationById newStations cell.station.id with
      | some present => simp [checkRemoved, mixedOtherwise, missingFrom, found, Bool.or_assoc]
      | none =>
          cases flagged : cell.station.useQuickMix <;>
            simp [checkRemoved, mixedOtherwise, missingFrom, found, flagged]

theorem foldl_checkAdded (oldStations : List StationCell) (flags : StationFlags)
    (present : List StationCell) :
    present.foldl (checkAdded oldStations) flags =
      ⟨flags.quickMixChanged || present.any (mixedOtherwise oldStations),
        flags.stationAdded || present.any (missingFrom oldStations), flags.stationRemoved⟩ := by
  induction present generalizing flags with
  | nil => simp
  | cons cell present induction =>
      rw [List.foldl_cons, induction]
      cases found : pianoFindStationById oldStations cell.station.id with
      | some past =>
          simp [checkAdded, mixedOtherwise, missingFrom, found, Bool.or_assoc, bne_comm]
      | none =>
          cases flagged : cell.station.useQuickMix <;>
            simp [checkAdded, mixedOtherwise, missingFrom, found, flagged]

private theorem stationChanges_eq_check (old new : List StationCell) :
    Server.stationChanges old new = (checkForStationChanges old new).1 := by
  have listed (left right : List StationCell) :
      left.all (fun cell => (pianoFindStationById right cell.station.id).isSome) =
        !left.any (missingFrom right) := by
    rw [List.not_any_eq_all_not]
    congr 1
    funext cell
    simp [missingFrom]
  simp only [Server.stationChanges, checkForStationChanges, foldl_checkRemoved, foldl_checkAdded,
    listed, Bool.false_or]
  cases old.any (missingFrom new) <;> cases new.any (missingFrom old) <;> rfl

/-! ## What the announcements mean -/

/-- The ids of a list. -/
def stationIds (stations : List StationCell) : List Text := stations.map (·.station.id)

/-- The ids of the stations in the mix. -/
def mixIds (stations : List StationCell) : List Text :=
  stationIds (stations.filter (·.station.useQuickMix))

theorem mem_stationIds {stations : List StationCell} {id : Text} :
    id ∈ stationIds stations ↔ ∃ cell ∈ stations, cell.station.id = id := by
  simp [stationIds]

theorem mem_mixIds {stations : List StationCell} {id : Text} :
    id ∈ mixIds stations ↔
      ∃ cell ∈ stations, cell.station.useQuickMix = true ∧ cell.station.id = id := by
  simp [mixIds, stationIds, and_assoc]

theorem findStationById_some {stations : List StationCell} {id : Text} {cell : StationCell}
    (found : pianoFindStationById stations id = some cell) :
    cell ∈ stations ∧ cell.station.id = id :=
  ⟨List.mem_of_find?_eq_some found, by
    have := List.find?_some found
    simpa [Std.LawfulEqCmp.compare_eq_iff_eq] using this⟩

theorem findStationById_none_iff {stations : List StationCell} {id : Text} :
    pianoFindStationById stations id = none ↔ id ∉ stationIds stations := by
  simp [pianoFindStationById, mem_stationIds, List.find?_eq_none,
    Std.LawfulEqCmp.compare_eq_iff_eq]

theorem findStationById_of_mem {stations : List StationCell}
    (distinct : (stationIds stations).Nodup) {cell : StationCell} (member : cell ∈ stations) :
    pianoFindStationById stations cell.station.id = some cell := by
  cases found : pianoFindStationById stations cell.station.id with
  | none =>
      exact absurd (mem_stationIds.mpr ⟨cell, member, rfl⟩) (findStationById_none_iff.mp found)
  | some other =>
      obtain ⟨there, same⟩ := findStationById_some found
      rw [List.inj_on_of_nodup_map distinct there member same]

theorem mem_mixIds_iff_find {stations : List StationCell} (distinct : (stationIds stations).Nodup)
    (id : Text) : id ∈ mixIds stations ↔
      ∃ cell, pianoFindStationById stations id = some cell ∧ cell.station.useQuickMix = true := by
  rw [mem_mixIds]
  constructor
  · rintro ⟨cell, member, flagged, rfl⟩
    exact ⟨cell, findStationById_of_mem distinct member, flagged⟩
  · rintro ⟨cell, found, flagged⟩
    obtain ⟨member, same⟩ := findStationById_some found
    exact ⟨cell, member, flagged, same⟩

/-- A record is missing from the other list exactly when the sets of ids differ. -/
theorem missingFrom_iff (left right : List StationCell) :
    (left.any (missingFrom right) || right.any (missingFrom left)) = true ↔
      ¬∀ id, id ∈ stationIds left ↔ id ∈ stationIds right := by
  simp only [Bool.or_eq_true, List.any_eq_true, missingFrom, Option.isNone_iff_eq_none,
    findStationById_none_iff]
  constructor
  · rintro (⟨cell, member, missing⟩ | ⟨cell, member, missing⟩) same
    · exact missing ((same _).mp (mem_stationIds.mpr ⟨cell, member, rfl⟩))
    · exact missing ((same _).mpr (mem_stationIds.mpr ⟨cell, member, rfl⟩))
  · intro differ
    by_contra none
    push Not at none
    refine differ fun id => ⟨fun listed => ?_, fun listed => ?_⟩
    · obtain ⟨cell, member, rfl⟩ := mem_stationIds.mp listed
      exact none.1 cell member
    · obtain ⟨cell, member, rfl⟩ := mem_stationIds.mp listed
      exact none.2 cell member

/-- A record's flag differs exactly when its id is in one mix only. -/
theorem mixedOtherwise_iff {left right : List StationCell}
    (leftDistinct : (stationIds left).Nodup) (rightDistinct : (stationIds right).Nodup)
    {cell : StationCell} (member : cell ∈ left) :
    mixedOtherwise right cell = true ↔
      ¬(cell.station.id ∈ mixIds left ↔ cell.station.id ∈ mixIds right) := by
  rw [mem_mixIds_iff_find leftDistinct, mem_mixIds_iff_find rightDistinct,
    findStationById_of_mem leftDistinct member]
  unfold mixedOtherwise
  cases pianoFindStationById right cell.station.id with
  | none => simp
  | some other =>
      cases flagged : other.station.useQuickMix <;> cases own : cell.station.useQuickMix <;>
        simp [flagged, own]

/-- The mix flag of a record differs exactly when the mixes do. -/
theorem mixChanged_iff {left right : List StationCell}
    (leftDistinct : (stationIds left).Nodup) (rightDistinct : (stationIds right).Nodup) :
    (left.any (mixedOtherwise right) || right.any (mixedOtherwise left)) = true ↔
      ¬∀ id, id ∈ mixIds left ↔ id ∈ mixIds right := by
  simp only [Bool.or_eq_true, List.any_eq_true]
  constructor
  · rintro (⟨cell, member, mixed⟩ | ⟨cell, member, mixed⟩) same
    · exact (mixedOtherwise_iff leftDistinct rightDistinct member).mp mixed (same _)
    · exact (mixedOtherwise_iff rightDistinct leftDistinct member).mp mixed (same _).symm
  · intro differ
    obtain ⟨id, differs⟩ := not_forall.mp differ
    by_cases inLeft : id ∈ mixIds left
    · obtain ⟨cell, member, -, rfl⟩ := mem_mixIds.mp inLeft
      exact .inl ⟨cell, member, (mixedOtherwise_iff leftDistinct rightDistinct member).mpr differs⟩
    · have inRight : id ∈ mixIds right := by
        by_contra neither
        exact differs (iff_of_false inLeft neither)
      obtain ⟨cell, member, -, rfl⟩ := mem_mixIds.mp inRight
      exact .inr ⟨cell, member, (mixedOtherwise_iff rightDistinct leftDistinct member).mpr
        fun same => differs same.symm⟩

private theorem mem_stationChanges {old new : List StationCell}
    (oldDistinct : (stationIds old).Nodup) (newDistinct : (stationIds new).Nodup) :
    (.iStationsChanged ∈ Server.stationChanges old new ↔
      ¬∀ id, id ∈ stationIds old ↔ id ∈ stationIds new) ∧
    (.iMixChanged ∈ Server.stationChanges old new ↔
      ¬∀ id, id ∈ mixIds old ↔ id ∈ mixIds new) := by
  rw [← missingFrom_iff, ← mixChanged_iff oldDistinct newDistinct, stationChanges_eq_check]
  simp only [checkForStationChanges, foldl_checkRemoved, foldl_checkAdded, Bool.false_or]
  cases old.any (missingFrom new) <;> cases new.any (missingFrom old) <;>
    cases old.any (mixedOtherwise new) <;> cases new.any (mixedOtherwise old) <;> decide

/-! ## The refreshed list -/

theorem map_station_allocate (next : Nat) (parsed : List Station) :
    (StationState.allocate next parsed).map (·.station) = parsed := by
  induction parsed generalizing next with
  | nil => rfl
  | cons station parsed induction => simp [StationState.allocate, induction]

private theorem le_address_of_mem_allocate {next : Nat} {parsed : List Station} {cell : StationCell}
    (member : cell ∈ StationState.allocate next parsed) : next ≤ cell.address := by
  induction parsed generalizing next with
  | nil => simp [StationState.allocate] at member
  | cons station parsed induction =>
      rcases List.mem_cons.mp member with rfl | member
      · exact le_rfl
      · exact (Nat.le_succ next).trans (induction member)

private theorem find_address_allocate {next : Nat} {parsed : List Station} {cell : StationCell}
    (member : cell ∈ StationState.allocate next parsed) :
    (StationState.allocate next parsed).find? (fun other => other.address = cell.address) =
      some cell := by
  induction parsed generalizing next with
  | nil => simp [StationState.allocate] at member
  | cons station parsed induction =>
      rcases List.mem_cons.mp member with rfl | member
      · simp [StationState.allocate]
      · have later : next < cell.address := le_address_of_mem_allocate member
        rw [StationState.allocate, List.find?_cons_of_neg (by simpa using later.ne)]
        exact induction member

private theorem selectedCell_refreshed (next : Nat) (parsed : List Station)
    (selected : Option StationCell) (nextAddress : Nat) :
    (StationState.mk (StationState.allocate next parsed) (selected.bind fun cell =>
      (pianoFindStationById (StationState.allocate next parsed) cell.station.id).map (·.address))
      nextAddress).selectedCell =
      .ok (selected.bind fun cell =>
        pianoFindStationById (StationState.allocate next parsed) cell.station.id) := by
  cases selected with
  | none => rfl
  | some cell =>
      cases found : pianoFindStationById (StationState.allocate next parsed) cell.station.id with
      | none => simp [StationState.selectedCell, found]
      | some fresh =>
          have member := (findStationById_some found).1
          simp [StationState.selectedCell, found, find_address_allocate member]

private theorem selectedCell_of_live {state : StationState} (live : state.SelectionLive) :
    ∃ selected, state.selectedCell = .ok selected := by
  unfold StationState.selectedCell
  cases selection : state.selectedStation with
  | none => exact ⟨none, rfl⟩
  | some address =>
      obtain ⟨cell, member, same⟩ := live address selection
      cases found : state.stations.find? fun cell => cell.address = address with
      | none =>
          have := List.find?_eq_none.mp found cell member
          simp [same] at this
      | some cell => exact ⟨some cell, by simp [found]⟩

namespace Server

variable {world : World} {server : Server}

private theorem updateStationList_of_failure (expired : server.app.updateStationList < world.now)
    (failed : (server.pianoTransaction world none .getStations).2 = false) :
    ∃ after, server.updateStationList world = .ok after ∧
      after.app.stationState = server.app.stationState := by
  unfold updateStationList
  rw [if_neg (not_le.mpr expired)]
  have kept := pianoTransaction_app world server none .getStations
  cases asked : server.pianoTransaction world none .getStations with
  | mk told success =>
      rw [asked] at failed kept
      obtain rfl : success = false := failed
      have same : told.app = server.app := kept
      refine ⟨_, rfl, ?_⟩
      rw [withApp_app, same]

/-- With a list from the server, fresh records replace the old ones. -/
theorem updateStationList_of_success (expired : server.app.updateStationList < world.now)
    (succeeded : (server.pianoTransaction world none .getStations).2 = true)
    {selected : Option StationCell} (known : server.app.stationState.selectedCell = .ok selected) :
    let fresh := StationState.allocate server.app.stationState.nextAddress
      (world.stationList.map (·.1))
    ∃ after, server.updateStationList world = .ok after ∧
      after.app.stationState.stations = fresh ∧
      after.app.stationState.selectedCell = .ok (selected.bind fun cell =>
        pianoFindStationById fresh cell.station.id) ∧
      ∃ lost, after.sent = server.sent ++
          (stationChanges server.app.stationState.stations fresh).map (⟨.service, ·⟩) ++ lost ∧
        ∀ message ∈ lost, message.code = .eResource ∨ message.code = .iSelectedStationNone := by
  intro fresh
  have asked : server.pianoTransaction world none .getStations = (server, true) := by
    cases failed : world.failure .getStations with
    | none => exact pianoTransaction_of_success world failed server none
    | some failure =>
        rw [pianoTransaction_of_failure world failed server none] at succeeded
        exact nomatch succeeded
  have refreshed := selectedCell_refreshed server.app.stationState.nextAddress
    (world.stationList.map (·.1)) selected
  unfold updateStationList
  rw [if_neg (not_le.mpr expired), asked]
  simp only [StationState.updateStationList, known, Bool.false_eq_true, if_false]
  refine ⟨_, rfl, ?_, ?_, ?_⟩
  · split <;> rfl
  · split <;> exact refreshed _
  · split
    · refine ⟨[⟨.service, .eResource⟩, ⟨.service, .iSelectedStationNone⟩], rfl, ?_⟩
      simp
    · exact ⟨[], by simp [send, fresh], by simp⟩

/-- A refresh installs the list of the server, looks the selected station up in it and announces
the differences; if the server gives none, nothing changes. -/
theorem updateStationList_refreshes (world : World) (server : Server)
    (expired : server.app.updateStationList < world.now)
    (live : server.app.stationState.SelectionLive)
    (oldDistinct : (stationIds server.app.stationState.stations).Nodup)
    (newDistinct : (world.stationList.map (·.1.id)).Nodup) :
    ∃ after, server.updateStationList world = .ok after ∧
      ((server.pianoTransaction world none .getStations).2 = false →
        after.app.stationState = server.app.stationState) ∧
      ((server.pianoTransaction world none .getStations).2 = true →
        after.app.stationState.stations.map (·.station) = world.stationList.map (·.1) ∧
        (∃ selected, server.app.stationState.selectedCell = .ok selected ∧
          after.app.stationState.selectedCell = .ok (selected.bind fun cell =>
            pianoFindStationById after.app.stationState.stations cell.station.id)) ∧
        ∃ told, after.sent = server.sent ++ told ∧
          (⟨.service, .iStationsChanged⟩ ∈ told ↔
            ¬∀ id, id ∈ stationIds server.app.stationState.stations ↔
              id ∈ stationIds after.app.stationState.stations) ∧
          (⟨.service, .iMixChanged⟩ ∈ told ↔
            ¬∀ id, id ∈ mixIds server.app.stationState.stations ↔
              id ∈ mixIds after.app.stationState.stations)) := by
  cases success : (server.pianoTransaction world none .getStations).2 with
  | false =>
      obtain ⟨after, updated, kept⟩ := updateStationList_of_failure expired success
      exact ⟨after, updated, fun _ => kept, fun other => absurd other Bool.false_ne_true⟩
  | true =>
      obtain ⟨selected, known⟩ := selectedCell_of_live live
      obtain ⟨after, updated, stations, selection, lost, sent, quiet⟩ :=
        updateStationList_of_success expired success known
      have freshDistinct : (stationIds after.app.stationState.stations).Nodup := by
        have ids : stationIds after.app.stationState.stations =
            (after.app.stationState.stations.map (·.station)).map (·.id) := by
          simp [stationIds]
        rw [ids, stations, map_station_allocate, List.map_map]
        exact newDistinct
      have announced := mem_stationChanges oldDistinct freshDistinct
      have carried (code : ResponseCode) (neither : code ≠ .eResource ∧
          code ≠ .iSelectedStationNone)
          (changes : List ResponseCode) :
          (⟨.service, code⟩ : Message) ∈ changes.map (⟨.service, ·⟩) ++ lost ↔ code ∈ changes := by
        have notLost : (⟨.service, code⟩ : Message) ∉ lost := fun member =>
          (quiet _ member).elim neither.1 neither.2
        simp [notLost]
      refine ⟨after, updated, fun other => Bool.noConfusion other,
        fun _ => ⟨?_, ⟨selected, known, ?_⟩, _, sent.trans (List.append_assoc _ _ _), ?_, ?_⟩⟩
      · rw [stations]
        exact map_station_allocate _ _
      · rw [selection, stations]
      · rw [carried _ (by decide), ← announced.1, stations]
      · rw [carried _ (by decide), ← announced.2, stations]

/-- The sample server gets a list with one station less and another in the mix. -/
def sampleRefresh : World :=
  { sampleWorld [] with stationList := [(⟨ascii "QuickMix", ascii "q", true, false⟩, true),
      (⟨ascii "Jazz", ascii "j", false, true⟩, true)] }

theorem updateStationList_refreshes_sample :
    ∃ after, (Server.mk (sampleApplication .standard) []).updateStationList sampleRefresh =
        .ok after ∧
      (((Server.mk (sampleApplication .standard) []).pianoTransaction sampleRefresh none
          .getStations).2 = false →
        after.app.stationState = (sampleApplication .standard).stationState) ∧
      (((Server.mk (sampleApplication .standard) []).pianoTransaction sampleRefresh none
          .getStations).2 = true →
        after.app.stationState.stations.map (·.station) = sampleRefresh.stationList.map (·.1) ∧
        (∃ selected, (sampleApplication .standard).stationState.selectedCell = .ok selected ∧
          after.app.stationState.selectedCell = .ok (selected.bind fun cell =>
            pianoFindStationById after.app.stationState.stations cell.station.id)) ∧
        ∃ told, after.sent = [] ++ told ∧
          (⟨.service, .iStationsChanged⟩ ∈ told ↔
            ¬∀ id, id ∈ stationIds (sampleApplication .standard).stationState.stations ↔
              id ∈ stationIds after.app.stationState.stations) ∧
          (⟨.service, .iMixChanged⟩ ∈ told ↔
            ¬∀ id, id ∈ mixIds (sampleApplication .standard).stationState.stations ↔
              id ∈ mixIds after.app.stationState.stations)) := by
  refine updateStationList_refreshes sampleRefresh ⟨sampleApplication .standard, []⟩ (by decide)
    ?_ (by decide) (by decide)
  intro address selected
  obtain rfl := Option.some.inj selected
  exact ⟨⟨1, ascii "Rock", ascii "r", false, true⟩, by decide, rfl⟩

end Server

end Pianod
