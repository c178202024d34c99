import Pianod.Foundation.FallibleRun
import Pianod.Foundation.FirstMatch
import Pianod.Foundation.Text

/-!
# Station records and the selected station

libpiano owns the list of station records; the server keeps a pointer to the selected one.  A
record is identified by its address, so that a pointer to a freed record can be recognised.  The
steps below are the operations of the server that replace, free or re-read station records.
-/

namespace Pianod

open Foundation

/-- A station of the Pandora account. -/
structure Station where
  name : Text
  id : Text
  /-- Whether this is the pseudo-station that plays the mix. -/
  isQuickMix : Bool
  /-- Whether the mix draws on this station. -/
  useQuickMix : Bool
deriving DecidableEq, Repr

/-- A station record in memory. -/
structure StationCell where
  address : Nat
  station : Station
deriving DecidableEq, Repr

/-- The station list and the selected station. -/
structure StationState where
  /-- The list of Pandora, in its order. -/
  stations : List StationCell
  /-- The address of the selected record. -/
  selectedStation : Option Nat
  /-- An address that no record has had yet. -/
  nextAddress : Nat
deriving DecidableEq, Repr

/-- libpiano's search by station id. -/
def pianoFindStationById (stations : List StationCell) (id : Text) : Option StationCell :=
  stations.find? fun cell => Text.strcmp cell.station.id id = .eq

/-- libpiano's search by name, without regard to case. -/
def pianoFindStationByName (stations : List StationCell) (name : Text) : Option StationCell :=
  stations.find? fun cell => Text.strcasecmp cell.station.name name = .eq

/-- The pseudo-station that plays the mix. -/
def pianoFindQuickMixStation (stations : List StationCell) : Option StationCell :=
  stations.find? fun cell => cell.station.isQuickMix

/-- Unlink the record with an address. -/
def pianoListDelete (stations : List StationCell) (address : Nat) : List StationCell :=
  stations.eraseP fun cell => cell.address = address

/-- What a command selects. -/
inductive StationChoice where
  | quickMix
  | named (name : Text)

/-- The operations on station records, each with the answers of the remote server it meets. -/
inductive StationAction where
  | select (choice : StationChoice)
  | stop
  /-- `current` tells that the cached list has not expired. -/
  | updateStationList (current : Bool) (reply : Option (List Station))
  /-- A new station, and the name to give it with the success of owning and renaming it. -/
  | createStation (reply : Option Station) (newName : Option (Text × Bool × Bool))
  | renameStation (fromName toName : Text) (owned renamed : Bool)
  | deleteStation (name : Text) (deleted : Bool)
  | getPlayList (retrieved : Bool)
  | playbackCleanup (failed hard : Bool)
  | changePianoSettings (initialised : Bool)

namespace StationState

/-- The record behind the selected-station pointer. -/
def selectedCell (state : StationState) : Except Fault (Option StationCell) :=
  match state.selectedStation with
  | none => .ok none
  | some address =>
      match state.stations.find? fun cell => cell.address = address with
      | some cell => .ok (some cell)
      | none => .error .useAfterFree

/-- Records for freshly parsed stations. -/
def allocate (next : Nat) : List Station → List StationCell
  | [] => []
  | station :: stations => ⟨next, station⟩ :: allocate (next + 1) stations

/-- Refresh the station list; on failure the old list is kept. -/
def updateStationList (state : StationState) (current : Bool) (reply : Option (List Station)) :
    Except Fault StationState :=
  if current then .ok state
  else
    match reply with
    | none => .ok state
    | some parsed =>
        let fresh := allocate state.nextAddress parsed
        match state.selectedCell with
        | .error fault => .error fault
        | .ok selected =>
            .ok
              { stations := fresh
                selectedStation := selected.bind fun cell =>
                  (pianoFindStationById fresh cell.station.id).map (·.address)
                nextAddress := state.nextAddress + parsed.length }

/-- libpiano's reaction to a created station: an entry with the same id is replaced. -/
def insertCreated (state : StationState) (created : Station) : StationState :=
  let cell : StationCell := ⟨state.nextAddress, created⟩
  match pianoFindStationById state.stations created.id with
  | none =>
      { state with stations := state.stations ++ [cell], nextAddress := state.nextAddress + 1 }
  | some search =>
      { state with
        stations := pianoListDelete state.stations search.address ++ [cell]
        nextAddress := state.nextAddress + 1 }

theorem getLast?_insertCreated (state : StationState) (created : Station) :
    (state.insertCreated created).stations.getLast? = some ⟨state.nextAddress, created⟩ := by
  unfold insertCreated
  dsimp only
  split <;> exact List.getLast?_concat

/-- Give the record with an address another name. -/
def rename (state : StationState) (address : Nat) (newName : Text) : StationState :=
  { state with
    stations := modifyFirst (fun cell => cell.address = address)
      (fun cell => { cell with station := { cell.station with name := newName } })
      state.stations }

/-- Rename the last station, if a name was asked for. -/
def renameNewStation (state : StationState) (newName : Option (Text × Bool × Bool)) :
    StationState :=
  match newName, state.stations.getLast? with
  | some (name, true, true), some last => state.rename last.address name
  | _, _ => state

/-- The state before the first login. -/
def initial : StationState := ⟨[], none, 0⟩

/-- The effect of an operation on the station records. -/
def step (state : StationState) : StationAction → Except Fault StationState
  | .select choice =>
      let station := match choice with
        | .quickMix => pianoFindQuickMixStation state.stations
        | .named name => pianoFindStationByName state.stations name
      match station with
      | none => .ok state
      | some cell => .ok { state with selectedStation := some cell.address }
  | .stop => .ok { state with selectedStation := none }
  | .updateStationList current reply => state.updateStationList current reply
  | .createStation reply newName =>
      match reply with
      | none => .ok state
      | some created => .ok ((state.insertCreated created).renameNewStation newName)
  | .renameStation fromName toName owned renamed =>
      match pianoFindStationByName state.stations fromName with
      | none => .error .nullDereference
      | some cell => .ok (if owned && renamed then state.rename cell.address toName else state)
  | .deleteStation name deleted =>
      match pianoFindStationByName state.stations name with
      | none => .ok state
      | some cell =>
          let deselected :=
            if state.selectedStation = some cell.address then
              { state with selectedStation := none }
            else state
          .ok (if deleted then
            { deselected with stations := pianoListDelete deselected.stations cell.address }
          else deselected)
  | .getPlayList retrieved =>
      match state.selectedCell with
      | .error fault => .error fault
      | .ok _ => .ok (if retrieved then state else { state with selectedStation := none })
  | .playbackCleanup failed hard =>
      .ok (if failed && hard then { state with selectedStation := none } else state)
  | .changePianoSettings initialised =>
      .ok (if initialised then { state with stations := [], selectedStation := none } else state)

/-- The selected station, if there is one, is an element of the current list. -/
def SelectionLive (state : StationState) : Prop :=
  ∀ address, state.selectedStation = some address →
    ∃ cell ∈ state.stations, cell.address = address

/-- A created station does not replace the selected one: the entry whose id the server answers
with, if any, is not the selected record. -/
def SparesSelection (state : StationState) : StationAction → Prop
  | .createStation (some created) _ =>
      ∀ cell, pianoFindStationById state.stations created.id = some cell →
        state.selectedStation ≠ some cell.address
  | _ => True

/-! ## Each operation keeps the selection live -/

theorem selectionLive_of_none {state : StationState}
    (none_selected : state.selectedStation = none) : state.SelectionLive := by
  intro address selected
  rw [none_selected] at selected
  cases selected

theorem selectionLive_of_mem {stations : List StationCell} {cell : StationCell} {next : Nat}
    (member : cell ∈ stations) :
    SelectionLive ⟨stations, some cell.address, next⟩ := by
  intro address selected
  cases selected
  exact ⟨cell, member, rfl⟩

/-- Unlinking another record keeps the selection. -/
theorem SelectionLive.listDelete {state : StationState} (live : state.SelectionLive)
    {address : Nat} (other : state.selectedStation ≠ some address) (back : List StationCell)
    (next : Nat) :
    SelectionLive ⟨pianoListDelete state.stations address ++ back, state.selectedStation,
      next⟩ := by
  intro kept selected
  obtain ⟨cell, member, rfl⟩ := live kept selected
  have stays : cell ∈ pianoListDelete state.stations address := by
    refine (List.mem_eraseP_of_neg ?_).mpr member
    intro same
    apply other
    rw [selected, of_decide_eq_true same]
  exact ⟨cell, List.mem_append_left _ stays, rfl⟩

private theorem map_address_rename (state : StationState) (address : Nat) (newName : Text) :
    (state.rename address newName).stations.map (·.address) =
      state.stations.map (·.address) := by
  exact map_modifyFirst fun _ _ => rfl

private theorem selectionLive_iff (state : StationState) :
    state.SelectionLive ↔ ∀ address, state.selectedStation = some address →
      address ∈ state.stations.map (·.address) := by
  simp [SelectionLive]

theorem SelectionLive.rename {state : StationState} (live : state.SelectionLive) (address : Nat)
    (newName : Text) : (state.rename address newName).SelectionLive := by
  rw [selectionLive_iff] at live ⊢
  intro selected same
  rw [map_address_rename]
  exact live selected same

theorem SelectionLive.renameNewStation {state : StationState} (live : state.SelectionLive)
    (newName : Option (Text × Bool × Bool)) : (state.renameNewStation newName).SelectionLive := by
  unfold StationState.renameNewStation
  split
  · exact live.rename _ _
  · exact live

theorem SelectionLive.insertCreated {state : StationState} (live : state.SelectionLive)
    {created : Station}
    (spared : ∀ cell, pianoFindStationById state.stations created.id = some cell →
      state.selectedStation ≠ some cell.address) :
    (state.insertCreated created).SelectionLive := by
  unfold StationState.insertCreated
  cases found : pianoFindStationById state.stations created.id with
  | none =>
      intro address selected
      obtain ⟨cell, member, same⟩ := live address selected
      exact ⟨cell, List.mem_append_left _ member, same⟩
  | some search => exact live.listDelete (spared search found) _ _

theorem SelectionLive.updateStationList {state next : StationState} (live : state.SelectionLive)
    {current : Bool} {reply : Option (List Station)}
    (update : state.updateStationList current reply = .ok next) : next.SelectionLive := by
  unfold StationState.updateStationList at update
  split at update
  · cases update
    exact live
  · split at update
    · cases update
      exact live
    · split at update
      · cases update
      · rename_i selected known
        cases update
        cases selected with
        | none => exact selectionLive_of_none rfl
        | some cell =>
            cases found : pianoFindStationById (allocate state.nextAddress _)
                cell.station.id with
            | none => exact selectionLive_of_none (by rw [Option.bind_some, found]; rfl)
            | some again =>
                rw [Option.bind_some, found]
                exact selectionLive_of_mem (List.mem_of_find?_eq_some found)

/-- Every admitted operation keeps the selection live. -/
theorem selectionLive_step {state next : StationState} {action : StationAction}
    (live : state.SelectionLive) (spared : state.SparesSelection action)
    (moved : state.step action = .ok next) : next.SelectionLive := by
  cases action with
  | select choice =>
      simp only [step] at moved
      split at moved
      · cases moved
        exact live
      · rename_i cell found
        cases moved
        apply selectionLive_of_mem
        cases choice with
        | quickMix => exact List.mem_of_find?_eq_some found
        | named name => exact List.mem_of_find?_eq_some found
  | stop =>
      cases moved
      exact selectionLive_of_none rfl
  | updateStationList current reply => exact live.updateStationList moved
  | createStation reply newName =>
      cases reply with
      | none =>
          cases moved
          exact live
      | some created =>
          cases moved
          exact (live.insertCreated spared).renameNewStation newName
  | renameStation fromName toName owned renamed =>
      simp only [step] at moved
      split at moved
      · cases moved
      · cases moved
        split
        · exact live.rename _ _
        · exact live
  | deleteStation name deleted =>
      simp only [step] at moved
      split at moved
      · cases moved
        exact live
      · rename_i cell found
        cases moved
        by_cases selected : state.selectedStation = some cell.address
        · rw [if_pos selected]
          split <;> exact selectionLive_of_none rfl
        · rw [if_neg selected]
          split
          · simpa using live.listDelete selected [] state.nextAddress
          · exact live
  | getPlayList retrieved =>
      simp only [step] at moved
      split at moved
      · cases moved
      · cases moved
        split
        · exact live
        · exact selectionLive_of_none rfl
  | playbackCleanup failed hard =>
      cases moved
      split
      · exact selectionLive_of_none rfl
      · exact live
  | changePianoSettings initialised =>
      cases moved
      split
      · exact selectionLive_of_none rfl
      · exact live

/-- The selected station is never dangling in a run whose created stations spare it. -/
theorem selectionLive_of_run {state : StationState} {actions : List StationAction}
    (spared : FallibleRun.Guarded step SparesSelection initial actions)
    (arrives : FallibleRun.run step initial actions = .ok state) : state.SelectionLive :=
  spared.invariant SelectionLive
    (fun _ _ _ live admitted moved => selectionLive_step live admitted moved)
    (selectionLive_of_none rfl) arrives

/-! ## Creating the selected station again -/

/-- The list of an account with the pseudo-station and one other. -/
def sampleList : List Station :=
  [⟨ascii "QuickMix", ascii "q", true, false⟩, ⟨ascii "Rock", ascii "r", false, true⟩]

/-- Select the second station of the account, then create a station. -/
def sampleActions (id : Text) : List StationAction :=
  [.updateStationList false (some sampleList), .select (.named (ascii "rock")),
    .createStation (some ⟨ascii "Rock Radio", id, false, false⟩) none]

/-- The state after the sample actions; the new record stands last. -/
def sampleState : StationState where
  stations :=
    [⟨0, ⟨ascii "QuickMix", ascii "q", true, false⟩⟩, ⟨1, ⟨ascii "Rock", ascii "r", false, true⟩⟩,
      ⟨2, ⟨ascii "Rock Radio", ascii "s", false, false⟩⟩]
  selectedStation := some 1
  nextAddress := 3

/-- A created station with an id of its own leaves the selection live. -/
theorem sampleActions_live : sampleState.SelectionLive := by
  refine @selectionLive_of_run _ (sampleActions (ascii "s")) ?_ rfl
  refine .cons trivial rfl (.cons trivial rfl (.cons ?_ rfl trivial))
  intro cell found
  cases found

/-- When the server answers with the id of the selected station, its record is freed and the
pointer dangles. -/
theorem sampleActions_dangles : ∃ state,
    FallibleRun.run step initial (sampleActions (ascii "r")) = .ok state ∧
      ¬state.SelectionLive := by
  refine ⟨_, rfl, fun live => ?_⟩
  obtain ⟨cell, member, same⟩ := live 1 rfl
  revert cell
  decide

end StationState

end Pianod
