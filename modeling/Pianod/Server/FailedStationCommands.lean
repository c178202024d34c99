import Mathlib.Logic.Function.Iterate
import Pianod.Server.StationCommands

/-!
# Failed station commands

A station command that is refused should leave the station list, the mix and the selection as they
were.  Renaming an unknown station crashes, deleting the selected station deselects it before the
server is asked, and the mix flags are changed before the server is told.
-/

namespace Pianod

open Foundation

/-- A command on stations that asks the Pandora server for a change. -/
inductive StationCommand where
  | rename (fromName toName : Text)
  | delete (name : Text)
  | mix (command : MixCommand) (names : List Text)

/-- Run a station command on behalf of a connection. -/
def StationCommand.run (world : World) (server : Server) (session : Nat) :
    StationCommand → Except Fault Server
  | .rename fromName toName => server.renameStation world session fromName toName
  | .delete name => .ok (server.deleteStation world session name)
  | .mix command names => server.changeMix world session command names

/-- Some line tells the connection that its command failed. -/
def Refuses (session : Nat) (messages : List Message) : Prop :=
  ∃ message ∈ messages, message.recipient = .connection session ∧
    400 ≤ message.code.value ∧ message.code.value ≤ 499

instance (session : Nat) (messages : List Message) : Decidable (Refuses session messages) :=
  List.decidableBEx _ _

/-- The command is answered, and if it is refused then no station, mix flag or selection has
changed. -/
def FailsCleanly (world : World) (app : Application) (session : Nat) (command : StationCommand) :
    Prop :=
  ∃ after, command.run world ⟨app, []⟩ session = .ok after ∧
    (Refuses session after.sent → after.app.stationState = app.stationState)

/-- The number of names that find the record at a position. -/
def namings (stations : List StationCell) (names : List Text) (position : Nat) : Nat :=
  names.countP fun name => stations.findIdx? (StationState.answers name) == some position

/-- The mix flag of a record that is named a number of times. -/
def MixCommand.outcome (command : MixCommand) (old : Bool) (named : Nat) : Bool :=
  match command with
  | .set => 0 < named
  | .add => old || 0 < named
  | .drop => old && named == 0
  | .toggle => old ^^ named % 2 == 1

/-- A name is not that of a station that can be in the mix. -/
def NotMixable (stations : List StationCell) (name : Text) : Prop :=
  ∀ cell, pianoFindStationByName stations name = some cell → cell.station.isQuickMix = true

/-- The command's names are known where they have to be, and no change is made early that a failing
server would leave behind. -/
def ChangesNothingEarly (world : World) (app : Application) : StationCommand → Prop
  | .rename fromName _ => pianoFindStationByName app.stationState.stations fromName ≠ none
  | .delete name => ∀ cell, pianoFindStationByName app.stationState.stations name = some cell →
      app.stationState.selectedStation = some cell.address → world.failure .deleteStation = none
  | .mix command names =>
      (∃ name ∈ names, NotMixable app.stationState.stations name) ∨
      world.failure .setQuickmix = none ∨
      ∀ position cell, app.stationState.stations[position]? = some cell →
        command.outcome cell.station.useQuickMix
        (namings app.stationState.stations names position) =
          cell.station.useQuickMix

/-! ## Lines -/

@[simp]
theorem refuses_nil (session : Nat) : ¬Refuses session [] := by
  simp [Refuses]

@[simp]
theorem refuses_append (session : Nat) (first second : List Message) :
    Refuses session (first ++ second) ↔ Refuses session first ∨ Refuses session second := by
  simp only [Refuses, List.mem_append, or_and_right, exists_or]

@[simp]
theorem refuses_cons (session : Nat) (message : Message) (messages : List Message) :
    Refuses session (message :: messages) ↔ (message.recipient = .connection session ∧
      400 ≤ message.code.value ∧ message.code.value ≤ 499) ∨ Refuses session messages := by
  simp [Refuses]

namespace Server

theorem refuses_announceAction (server : Server) (session : Nat) :
    Refuses session server.announceAction.sent ↔ Refuses session server.sent := by
  unfold announceAction
  split
  · simp
  · exact Iff.rfl

/-! ## Renaming and deleting -/

variable (world : World)

@[simp]
theorem pwnStation_stationState (server : Server) (session : Nat) (stationId : Text) :
    (server.pwnStation world session stationId).1.app.stationState = server.app.stationState := by
  unfold pwnStation
  split
  · rfl
  · split
    · rfl
    · cases failed : world.failure .transformStation with
      | none => simp [pianoTransaction_of_success world failed]
      | some failure => simp [pianoTransaction_of_failure world failed]

private theorem pwnStation_refuses {server : Server} {session : Nat} {stationId : Text}
    (owned : (server.pwnStation world session stationId).2 = true) :
    Refuses session (server.pwnStation world session stationId).1.sent ↔
      Refuses session server.sent := by
  unfold pwnStation at owned ⊢
  split
  · rename_i unknown
    simp [unknown] at owned
  · rename_i cell found
    split
    · exact Iff.rfl
    · rename_i foreign
      cases failed : world.failure .transformStation with
      | none => simp [pianoTransaction_of_success world failed, ResponseCode.value]
      | some failure => simp [found, foreign, pianoTransaction_of_failure world failed] at owned

end Server

private theorem failsCleanly_rename (world : World) (app : Application) (session : Nat)
    (fromName toName : Text) :
    FailsCleanly world app session (.rename fromName toName) ↔
      ChangesNothingEarly world app (.rename fromName toName) := by
  unfold FailsCleanly ChangesNothingEarly StationCommand.run Server.renameStation
  dsimp only
  cases found : pianoFindStationByName app.stationState.stations fromName with
  | none => simp
  | some station =>
      refine iff_of_true ?_ (by simp)
      dsimp only
      have kept := Server.pwnStation_stationState world ⟨app, []⟩ session station.station.id
      have silent := @Server.pwnStation_refuses world ⟨app, []⟩ session station.station.id
      rcases pwn : Server.pwnStation world ⟨app, []⟩ session station.station.id with ⟨server, owned⟩
      rw [pwn] at kept silent
      cases owned with
      | false => exact ⟨server, rfl, fun _ => kept⟩
      | true =>
          dsimp only
          cases failed : world.failure .renameStation with
          | some failure =>
              rw [Server.pianoTransaction_of_failure world failed]
              exact ⟨_, rfl, fun _ => kept⟩
          | none =>
              rw [Server.pianoTransaction_of_success world failed]
              refine ⟨_, rfl, fun refused => ?_⟩
              simp [Server.refuses_announceAction, silent rfl, ResponseCode.value] at refused

theorem failsCleanly_delete (world : World) (app : Application) (session : Nat) (name : Text) :
    FailsCleanly world app session (.delete name) ↔
      ChangesNothingEarly world app (.delete name) := by
  unfold FailsCleanly ChangesNothingEarly StationCommand.run Server.deleteStation
  dsimp only
  cases found : pianoFindStationByName app.stationState.stations name with
  | none => simp
  | some station =>
      dsimp only
      cases failed : world.failure .deleteStation with
      | none =>
          rw [Server.pianoTransaction_of_success world failed]
          refine iff_of_true ⟨_, rfl, fun refused => ?_⟩ (fun _ _ _ => rfl)
          simp [Server.refuses_announceAction, ResponseCode.value] at refused
      | some failure =>
          rw [Server.pianoTransaction_of_failure world failed]
          by_cases selected : app.stationState.selectedStation = some station.address
          · -- The refusal comes after the station was deselected.
            simp only [if_pos selected]
            refine iff_of_false ?_ (fun keeps => by simpa using keeps station rfl selected)
            rintro ⟨after, run, keeps⟩
            obtain rfl := Except.ok.inj run
            have same := keeps (by simp [ResponseCode.value])
            have deselected := congrArg StationState.selectedStation same
            simp [selected] at deselected
          · simp only [if_neg selected]
            refine iff_of_true ⟨_, rfl, fun _ => rfl⟩ ?_
            rintro cell same chosen
            obtain rfl := Option.some.inj same
            exact absurd chosen selected

/-! ## The mix -/

namespace StationState

/-- A record with another mix flag. -/
def withMix (cell : StationCell) (flag : Bool) : StationCell :=
  { cell with station := { cell.station with useQuickMix := flag } }

private theorem findIdx?_setMix (stations : List StationCell) (name other : Text) (flag : Bool) :
    (setMix stations name flag).findIdx? (answers other) = stations.findIdx? (answers other) := by
  induction stations with
  | nil => rfl
  | cons cell stations ih =>
      unfold setMix at ih ⊢
      cases found : answers name cell with
      | true =>
          simp only [modifyFirst, found, if_true, List.findIdx?_cons]
          rfl
      | false =>
          simp only [modifyFirst, found, Bool.false_eq_true, if_false, List.findIdx?_cons, ih]

private theorem namings_setMix (stations : List StationCell) (name : Text) (flag : Bool)
    (names : List Text) (position : Nat) :
    namings (setMix stations name flag) names position = namings stations names position := by
  simp only [namings, findIdx?_setMix]

/-- Setting a flag changes the record that is found and no other. -/
theorem getElem?_setMix (stations : List StationCell) (name : Text) (flag : Bool)
    (position : Nat) :
    (setMix stations name flag)[position]? =
      if stations.findIdx? (answers name) = some position then
        stations[position]?.map (withMix · flag)
      else stations[position]? := by
  induction stations generalizing position with
  | nil => simp [setMix, modifyFirst]
  | cons cell stations ih =>
      unfold setMix at ih ⊢
      cases found : answers name cell with
      | true =>
          cases position with
          | zero => simp [modifyFirst, found, List.findIdx?_cons, withMix]
          | succ position => simp [modifyFirst, found, List.findIdx?_cons]
      | false =>
          cases position with
          | zero => simp [modifyFirst, found, List.findIdx?_cons]
          | succ position => simp [modifyFirst, found, List.findIdx?_cons, ih]

/-- A found record is at the first position that answers to the name. -/
theorem findIdx?_of_found {stations : List StationCell} {name : Text} {cell : StationCell}
    (found : pianoFindStationByName stations name = some cell) :
    ∃ position, stations.findIdx? (answers name) = some position ∧
      stations[position]? = some cell := by
  induction stations with
  | nil => simp [pianoFindStationByName] at found
  | cons head stations ih =>
      cases first : answers name head with
      | true =>
          have taken : (decide (Text.strcasecmp head.station.name name = .eq)) = true := first
          have same : head = cell := by
            simpa only [pianoFindStationByName, List.find?_cons, taken,
              Option.some.injEq] using found
          exact ⟨0, by simp [List.findIdx?_cons, first], by simp [same]⟩
      | false =>
          have later : pianoFindStationByName stations name = some cell := by
            have skipped : (decide (Text.strcasecmp head.station.name name = .eq)) = false := first
            simpa only [pianoFindStationByName, List.find?_cons, skipped] using found
          obtain ⟨position, index, there⟩ := ih later
          exact ⟨position + 1, by simp [List.findIdx?_cons, first, index], by simpa using there⟩

/-- No name of a list is refused. -/
def Mixable (stations : List StationCell) (names : List Text) : Prop :=
  ∀ name ∈ names, ∃ cell, pianoFindStationByName stations name = some cell ∧
    cell.station.isQuickMix = false

private theorem isQuickMix_setMix (stations : List StationCell) (name other : Text) (flag : Bool) :
    (pianoFindStationByName (setMix stations name flag) other).map (·.station.isQuickMix) =
      (pianoFindStationByName stations other).map (·.station.isQuickMix) := by
  have views : (setMix stations name flag).map (fun cell =>
      (cell.station.name, cell.station.isQuickMix)) =
        stations.map fun cell => (cell.station.name, cell.station.isQuickMix) :=
    map_modifyFirst fun _ _ => rfl
  have looked (list : List StationCell) :
      (pianoFindStationByName list other).map (·.station.isQuickMix) =
        ((list.map fun cell => (cell.station.name, cell.station.isQuickMix)).find? fun view =>
          Text.strcasecmp view.1 other = .eq).map (·.2) := by
    rw [List.find?_map, Option.map_map]
    rfl
  rw [looked, looked, views]

theorem Mixable.setMix {stations : List StationCell} {names : List Text}
    (mixable : Mixable stations names) (name : Text) (flag : Bool) :
    Mixable (setMix stations name flag) names := by
  intro other member
  obtain ⟨cell, found, ordinary⟩ := mixable other member
  have same := isQuickMix_setMix stations name other flag
  rw [found] at same
  obtain ⟨changed, there, kind⟩ := Option.map_eq_some_iff.mp same
  exact ⟨changed, there, kind.trans ordinary⟩

/-- Going through the names applies the command to every record as often as it is named; where no
change is counted there is none. -/
theorem applyMix_spec (command : MixCommand) {names : List Text} {stations : List StationCell}
    (changes : Nat) (mixable : Mixable stations names) :
    ∃ after total, applyMix command names stations changes = .ok (after, total) ∧
      changes ≤ total ∧ (total = changes → after = stations) ∧
      ∀ position, after[position]? = stations[position]?.map fun cell =>
        withMix cell (command.flag^[namings stations names position] cell.station.useQuickMix) := by
  induction names generalizing stations changes with
  | nil =>
      refine ⟨stations, changes, rfl, le_rfl, fun _ => rfl, fun position => ?_⟩
      simp [namings, withMix]
  | cons name names ih =>
      obtain ⟨cell, found, ordinary⟩ := mixable name (by simp)
      have rest : Mixable stations names := fun other member => mixable other (by simp [member])
      obtain ⟨place, index, there⟩ := findIdx?_of_found found
      obtain ⟨after, total, run, grows, still, flags⟩ :=
        ih (if command.flag cell.station.useQuickMix = cell.station.useQuickMix then changes
          else changes + 1) (rest.setMix name (command.flag cell.station.useQuickMix))
      have unchanged (same : command.flag cell.station.useQuickMix = cell.station.useQuickMix) :
          StationState.setMix stations name (command.flag cell.station.useQuickMix) =
            stations := by
        apply List.ext_getElem?
        intro position
        rw [getElem?_setMix]
        split
        · rename_i here
          obtain rfl : place = position := by simpa [index] using here
          rw [there, same]
          rfl
        · rfl
      refine ⟨after, total, by simp [applyMix, found, ordinary, run], ?_, ?_, fun position => ?_⟩
      · split at grows <;> omega
      · intro count
        by_cases same : command.flag cell.station.useQuickMix = cell.station.useQuickMix
        · rw [if_pos same] at still
          rw [still count, unchanged same]
        · rw [if_neg same] at grows
          omega
      · rw [flags, getElem?_setMix, namings_setMix]
        by_cases here : place = position
        · subst here
          simp [index, there, namings, withMix, Function.iterate_add_apply]
        · simp [index, here, namings]

/-- Applying a command again and again comes to its outcome. -/
theorem iterate_flag (command : MixCommand) (old : Bool) (named : Nat) :
    command.flag^[named] (if command = .set then false else old) = command.outcome old named := by
  induction named with
  | zero => cases command <;> simp [MixCommand.outcome]
  | succ named ih =>
      rw [Function.iterate_succ_apply', ih]
      cases command with
      | set => simp [MixCommand.flag, MixCommand.outcome]
      | add => simp [MixCommand.flag, MixCommand.outcome]
      | drop => simp [MixCommand.flag, MixCommand.outcome]
      | toggle =>
          have parity : ((named + 1) % 2 == 1) = !(named % 2 == 1) := by
            rcases Nat.mod_two_eq_zero_or_one named with even | odd
            · simp [Nat.add_mod, even]
            · simp [Nat.add_mod, odd]
          simp [MixCommand.flag, MixCommand.outcome, parity]

/-- The records that a mix command starts from. -/
def mixStart (command : MixCommand) (stations : List StationCell) : List StationCell :=
  if command = .set then clearMix stations else stations

private theorem getElem?_mixStart (command : MixCommand) (stations : List StationCell)
    (position : Nat) : (mixStart command stations)[position]? = stations[position]?.map fun cell =>
      withMix cell (if command = .set then false else cell.station.useQuickMix) := by
  unfold mixStart
  split
  · simp [clearMix, withMix]
  · simp [withMix]

private theorem findIdx?_clearMix (stations : List StationCell) (name : Text) :
    (clearMix stations).findIdx? (answers name) = stations.findIdx? (answers name) := by
  rw [clearMix, List.findIdx?_map]
  rfl

private theorem namings_mixStart (command : MixCommand) (stations : List StationCell)
    (names : List Text) (position : Nat) :
    namings (mixStart command stations) names position = namings stations names position := by
  unfold mixStart
  split
  · simp only [namings, findIdx?_clearMix]
  · rfl

theorem Mixable.mixStart {stations : List StationCell} {names : List Text}
    (mixable : Mixable stations names) (command : MixCommand) :
    Mixable (mixStart command stations) names := by
  unfold StationState.mixStart
  split
  · intro name member
    obtain ⟨cell, found, ordinary⟩ := mixable name member
    refine ⟨withMix cell false, ?_, ordinary⟩
    rw [pianoFindStationByName] at found ⊢
    rw [clearMix, List.find?_map]
    exact congrArg (Option.map (withMix · false)) found
  · exact mixable

/-- A mix command on valid names leaves every record with its outcome. -/
theorem applyMix_outcome (command : MixCommand) {names : List Text} {stations : List StationCell}
    (mixable : Mixable stations names) :
    ∃ after total, applyMix command names (mixStart command stations)
        (if command = .set then 2 else 0) = .ok (after, total) ∧
      (total = 0 → after = stations) ∧
      (after = stations ↔ ∀ position cell, stations[position]? = some cell →
        command.outcome cell.station.useQuickMix (namings stations names position) =
          cell.station.useQuickMix) := by
  obtain ⟨after, total, run, grows, still, flags⟩ :=
    applyMix_spec command (if command = .set then 2 else 0) (mixable.mixStart command)
  have outcome (position : Nat) : after[position]? = stations[position]?.map fun cell =>
      withMix cell (command.outcome cell.station.useQuickMix
        (namings stations names position)) := by
    rw [flags, getElem?_mixStart, namings_mixStart, Option.map_map]
    congr 1
    funext cell
    rw [← iterate_flag]
    rfl
  refine ⟨after, total, run, fun none_changed => ?_, ?_⟩
  · have other : command ≠ .set := by
      intro set
      rw [if_pos set] at grows
      omega
    rw [still (by rw [none_changed, if_neg other]), StationState.mixStart, if_neg other]
  · constructor
    · intro same position cell there
      have now := outcome position
      rw [same, there] at now
      have flag := congrArg (Option.map (·.station.useQuickMix)) now
      simpa [withMix] using flag.symm
    · intro unchanged
      apply List.ext_getElem?
      intro position
      rw [outcome]
      cases there : stations[position]? with
      | none => rfl
      | some cell =>
          rw [Option.map_some, unchanged position cell there]
          rfl

end StationState

private theorem validateStationList_snd (server : Server) (session : Nat) (names : List Text) :
    (server.validateStationList session names).2 = true ↔
      StationState.Mixable server.app.stationState.stations names := by
  simp only [Server.validateStationList, List.isEmpty_iff, List.flatMap_eq_nil_iff,
    StationState.Mixable]
  refine forall_congr' fun name => imp_congr_right fun _ => ?_
  cases pianoFindStationByName server.app.stationState.stations name with
  | none => simp
  | some cell => cases kind : cell.station.isQuickMix <;> simp [kind]

private theorem validateStationList_refuses (server : Server) (session : Nat) (names : List Text) :
    Refuses session (server.validateStationList session names).1.sent ↔
      Refuses session server.sent := by
  simp only [Server.validateStationList, Server.send, refuses_append, or_iff_left_iff_imp]
  rintro ⟨message, member, -, refusal, -⟩
  obtain ⟨code, detail, rfl⟩ := List.mem_map.mp member
  obtain ⟨name, -, detail⟩ := List.mem_flatMap.mp detail
  split at detail
  · split at detail
    · obtain rfl := List.mem_singleton.mp detail
      simp [ResponseCode.value] at refusal
    · cases detail
  · obtain rfl := List.mem_singleton.mp detail
    simp [ResponseCode.value] at refusal

private theorem failsCleanly_mix (world : World) (app : Application) (session : Nat)
    (command : MixCommand) (names : List Text) :
    FailsCleanly world app session (.mix command names) ↔
      ChangesNothingEarly world app (.mix command names) := by
  have passes := validateStationList_snd ⟨app, []⟩ session names
  have silent := validateStationList_refuses ⟨app, []⟩ session names
  unfold FailsCleanly ChangesNothingEarly StationCommand.run Server.changeMix
  dsimp only
  rcases check : Server.validateStationList ⟨app, []⟩ session names with ⟨server, valid⟩
  have same : server.app = app := congrArg (·.1.app) check.symm
  rw [check] at passes silent
  cases valid with
  | false =>
      have unmixable : ∃ name ∈ names, NotMixable app.stationState.stations name := by
        by_contra fine
        push Not at fine
        refine absurd (passes.mpr fun name member => ?_) (by simp)
        have found := fine name member
        simp only [NotMixable, not_forall, Bool.not_eq_true] at found
        obtain ⟨cell, there, ordinary⟩ := found
        exact ⟨cell, there, ordinary⟩
      exact iff_of_true ⟨_, rfl, fun _ => by rw [Server.reply_app, same]⟩ (.inl unmixable)
  | true =>
      have mixable := passes.mp rfl
      have fine : ¬∃ name ∈ names, NotMixable app.stationState.stations name := by
        rintro ⟨name, member, unmixable⟩
        obtain ⟨cell, found, ordinary⟩ := mixable name member
        simp [unmixable cell found] at ordinary
      obtain ⟨after, total, run, still, unchanged⟩ := StationState.applyMix_outcome command mixable
      rw [or_iff_right fine, ← unchanged]
      have start : (if command = .set then (StationState.clearMix app.stationState.stations, 2)
          else (app.stationState.stations, 0)) = (StationState.mixStart command
            app.stationState.stations, if command = .set then 2 else 0) := by
        unfold StationState.mixStart
        split <;> rfl
      simp only [Server.manipulateQuickmix, same, start, run]
      by_cases changed : 0 < total
      · rw [if_pos changed]
        cases failed : world.failure .setQuickmix with
        | none =>
            rw [Server.pianoTransaction_of_success world failed]
            refine iff_of_true ⟨_, rfl, fun refused => ?_⟩ (.inl rfl)
            simp [Server.refuses_announceAction, silent, ResponseCode.value] at refused
        | some failure =>
            -- The refusal comes after the flags were changed.
            rw [Server.pianoTransaction_of_failure world failed]
            constructor
            · rintro ⟨final, answered, keeps⟩
              obtain rfl := Except.ok.inj answered
              have kept := keeps (by simp [ResponseCode.value])
              exact .inr (congrArg StationState.stations kept)
            · rintro (success | kept)
              · cases success
              · exact ⟨_, rfl, fun _ => by simp [kept]⟩
      · rw [if_neg changed]
        have kept : after = app.stationState.stations := still (by omega)
        exact iff_of_true ⟨_, rfl, fun _ => by simp [kept]⟩ (.inr kept)

/-- A station command fails cleanly exactly when it changes nothing early. -/
theorem failsCleanly_iff (world : World) (app : Application) (session : Nat)
    (command : StationCommand) :
    FailsCleanly world app session command ↔ ChangesNothingEarly world app command := by
  cases command with
  | rename fromName toName => exact failsCleanly_rename world app session fromName toName
  | delete name => exact failsCleanly_delete world app session name
  | mix command names => exact failsCleanly_mix world app session command names

/-- While the network is down, deleting the selected station fails but deselects it. -/
theorem sampleDelete_deselects : ¬FailsCleanly (sampleWorld [.deleteStation])
    (sampleApplication .administrator) 0 (.delete (ascii "Rock")) := by
  intro clean
  have keeps := (failsCleanly_delete _ _ _ _).mp clean
  have success := keeps ⟨1, ascii "Rock", ascii "r", false, true⟩ (by decide) rfl
  simp [sampleWorld] at success

/-- Renaming a station that does not exist crashes the server. -/
example : StationCommand.run (sampleWorld [])
    ⟨sampleApplication .administrator, []⟩ 0 (.rename (ascii "Jazz") (ascii "Blues")) =
      .error .nullDereference := by rfl

end Pianod
