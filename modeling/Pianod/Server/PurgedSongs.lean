import Pianod.Server.PlayerLoop

/-!
# Purging the queue

The songs at the front of the queue that cannot be played with the present selection are freed, up
to the first one that can.  While the mix is selected, none of the songs examined may be of the mix
itself.
-/

namespace Pianod

open Foundation

/-- Whether a song can be played while a station is selected. -/
def playable (stations : List StationCell) (selected : Option StationCell) (song : PianoSong) :
    Bool :=
  match selected with
  | none => false
  | some selected =>
      if selected.station.isQuickMix then
        match pianoFindStationById stations song.stationId with
        | none => false
        | some cell => cell.station.useQuickMix
      else decide (song.stationId = selected.station.id)

/-- Whether a song is of the mix itself while the mix is selected. -/
def ofTheMix (stations : List StationCell) (selected : Option StationCell) (song : PianoSong) :
    Bool :=
  match selected with
  | none => false
  | some selected =>
      selected.station.isQuickMix &&
        match pianoFindStationById stations song.stationId with
        | none => false
        | some cell => cell.station.isQuickMix

/-- The songs that are examined: those that cannot be played, and the one after them. -/
def examined (plays : PianoSong → Bool) : List PianoSong → List PianoSong
  | [] => []
  | song :: songs => if plays song then [song] else song :: examined plays songs

section

variable {app : Application} {selected : Option StationCell}

/-- One song is examined. -/
theorem stillSelected_eq (live : app.stationState.selectedCell = .ok selected)
    (song : PianoSong) :
    app.stillSelected song =
      if ofTheMix app.stationState.stations selected song then
        .error (.assertion "!station->isQuickMix")
      else .ok (playable app.stationState.stations selected song) := by
  rw [Application.stillSelected, live]
  cases selected with
  | none => rfl
  | some cell =>
      simp only [ofTheMix, playable]
      by_cases mix : cell.station.isQuickMix = true
      · simp only [mix, if_true, Bool.true_and]
        cases pianoFindStationById app.stationState.stations song.stationId <;> simp
      · simp [mix]

/-- The queue is split before the first song that can be played. -/
theorem splitUnselected_eq (live : app.stationState.selectedCell = .ok selected)
    {songs : List PianoSong}
    (proper : ∀ song ∈ examined (playable app.stationState.stations selected) songs,
      ofTheMix app.stationState.stations selected song = false) :
    app.splitUnselected songs =
      .ok (songs.takeWhile (!playable app.stationState.stations selected ·),
        songs.dropWhile (!playable app.stationState.stations selected ·)) := by
  induction songs with
  | nil => rfl
  | cons song songs ih =>
      rw [examined] at proper
      cases plays : playable app.stationState.stations selected song with
      | true =>
          rw [if_pos plays] at proper
          have own := proper song List.mem_cons_self
          rw [Application.splitUnselected, stillSelected_eq live, own]
          simp [plays]
      | false =>
          rw [if_neg (by simp [plays])] at proper
          have own := proper song List.mem_cons_self
          rw [Application.splitUnselected, stillSelected_eq live, own]
          simp only [Bool.false_eq_true, if_false, plays]
          rw [ih fun other member => proper other (List.mem_cons_of_mem _ member)]
          simp [plays]

/-- A song of the mix stops the program when it is examined. -/
theorem splitUnselected_stops (live : app.stationState.selectedCell = .ok selected)
    {songs : List PianoSong}
    (improper : ∃ song ∈ examined (playable app.stationState.stations selected) songs,
      ofTheMix app.stationState.stations selected song = true) :
    app.splitUnselected songs = .error (.assertion "!station->isQuickMix") := by
  induction songs with
  | nil =>
      obtain ⟨song, member, -⟩ := improper
      cases member
  | cons song songs ih =>
      rw [Application.splitUnselected, stillSelected_eq live]
      cases own : ofTheMix app.stationState.stations selected song with
      | true => rfl
      | false =>
          obtain ⟨other, member, mix⟩ := improper
          rw [examined] at member
          have later : other ≠ song := by
            rintro rfl
            rw [own] at mix
            cases mix
          cases plays : playable app.stationState.stations selected song with
          | true =>
              rw [if_pos plays] at member
              exact absurd (List.mem_singleton.mp member) later
          | false =>
              rw [if_neg (by simp [plays])] at member
              have further := (List.mem_cons.mp member).resolve_left later
              simp only [Bool.false_eq_true, if_false]
              rw [ih ⟨other, further, mix⟩]

private theorem dropWhile_playable {plays : PianoSong → Bool} {songs : List PianoSong}
    {song : PianoSong}
    (first : (songs.dropWhile (!plays ·)).head? = some song) : plays song = true := by
  have stops := List.head?_dropWhile_not (!plays ·) songs
  rw [first] at stops
  simpa using stops

private theorem emptied_iff (plays : PianoSong → Bool) (songs : List PianoSong) :
    (!(songs.takeWhile plays).isEmpty && (songs.dropWhile plays).isEmpty) = true ↔
      songs ≠ [] ∧ songs.dropWhile plays = [] := by
  by_cases emptied : songs.dropWhile plays = []
  · have all : songs.takeWhile plays = songs := by
      have whole := @List.takeWhile_append_dropWhile _ plays songs
      rwa [emptied, List.append_nil] at whole
    simp [emptied, all]
  · simp [emptied]

end

/-- The songs that cannot be played are taken off the front of the queue and freed, up to the first
one that can; the rest stays in order, and the station list is to be updated as soon as that emptied
the queue.  If one of the songs examined is of the mix, the program stops instead. -/
theorem LoopState.purgeUnselectedSongs_exact (state : LoopState) {selected : Option StationCell}
    (live : state.app.stationState.selectedCell = .ok selected) :
    ((∀ song ∈ examined (playable state.app.stationState.stations selected) state.app.playlist,
        ofTheMix state.app.stationState.stations selected song = false) →
      ∃ removed kept, removed ++ kept = state.app.playlist ∧
        (∀ song ∈ removed, playable state.app.stationState.stations selected song = false) ∧
        (∀ song, kept.head? = some song →
          playable state.app.stationState.stations selected song = true) ∧
        state.purgeUnselectedSongs = .ok { state with
          app := { state.app with
            playlist := kept
            updateStationList :=
              if state.app.playlist ≠ [] ∧ kept = [] then 0 else state.app.updateStationList }
          freed := state.freed ++ removed.map (·.address) }) ∧
    ((∃ song ∈ examined (playable state.app.stationState.stations selected) state.app.playlist,
        ofTheMix state.app.stationState.stations selected song = true) →
      state.purgeUnselectedSongs = .error (.other (.assertion "!station->isQuickMix"))) := by
  constructor
  · intro proper
    have split := splitUnselected_eq live proper
    refine ⟨_, _, List.takeWhile_append_dropWhile, ?_, fun song => dropWhile_playable, ?_⟩
    · intro song member
      simpa using List.mem_takeWhile_imp member
    · rw [purgeUnselectedSongs, split]
      simp only [emptied_iff]
  · intro improper
    rw [purgeUnselectedSongs, splitUnselected_stops live improper]

/-! ## The mix -/

/-- A song of a station. -/
def songOf (address : Nat) (stationId : Text) : PianoSong where
  address := address
  audioUrl := none
  audioFormat := .mp3
  trackToken := []
  musicId := none
  feedbackId := none
  seedId := none
  artist := []
  title := []
  album := none
  coverArt := none
  detailUrl := none
  stationId := stationId
  rating := .none

/-- The mix is selected, and songs of some stations are waiting. -/
def sampleQueue (stationIds : List Text) : LoopState :=
  let app := sampleApplication .listener
  { LoopState.initial app with
    app := { app with
      stationState := { app.stationState with selectedStation := some 0 }
      playlist := stationIds.map (songOf 0)
      updateStationList := 1 } }

/-- A song of a station that is gone is freed, one of a station in the mix stays. -/
theorem LoopState.purgeUnselectedSongs_exact_mixed :
    (∃ after, (sampleQueue [ascii "x", ascii "r"]).purgeUnselectedSongs = .ok after ∧
      after.app.playlist = [songOf 0 (ascii "r")]) ∧
    (sampleQueue [ascii "r", ascii "q"]).purgeUnselectedSongs.toBool = true ∧
    (sampleQueue [ascii "q"]).purgeUnselectedSongs =
      .error (.other (.assertion "!station->isQuickMix")) := by
  obtain ⟨removed, kept, -, -, -, purges⟩ :=
    (purgeUnselectedSongs_exact (sampleQueue [ascii "x", ascii "r"]) rfl).1 (by decide)
  obtain ⟨removed', kept', -, -, -, stays⟩ :=
    (purgeUnselectedSongs_exact (sampleQueue [ascii "r", ascii "q"]) rfl).1 (by decide)
  refine ⟨⟨_, purges, ?_⟩, by rw [stays]; rfl,
    (purgeUnselectedSongs_exact (sampleQueue [ascii "q"]) rfl).2 ⟨_, List.mem_cons_self, by decide⟩⟩
  have left : (sampleQueue [ascii "x", ascii "r"]).purgeUnselectedSongs.toOption.map
      (·.app.playlist) = some [songOf 0 (ascii "r")] := rfl
  rw [purges] at left
  exact Option.some.inj left

/-- A song of the mix stops the program, though it could be taken for one that cannot be played. -/
theorem LoopState.purgeUnselectedSongs_ofTheMix :
    ∃ (state : LoopState) (selected : StationCell),
      state.app.stationState.selectedCell = .ok (some selected) ∧
      ¬∃ after, state.purgeUnselectedSongs = .ok after := by
  refine ⟨sampleQueue [ascii "q"], _, rfl, ?_⟩
  rintro ⟨after, purged⟩
  cases purged

end Pianod
