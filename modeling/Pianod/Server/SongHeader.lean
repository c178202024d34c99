import Pianod.Server.AacPlayer
import Pianod.Server.SongFile

/-!
# The header of a song

The player looks for the parts of the file in what has arrived and goes on when more has.  What it
finds does not depend on how the file arrives: it is what the file agrees.
-/

namespace Pianod

open Foundation Waitress

namespace AacPlayer

variable {δ : Type} {decoder : AacDecoder δ} {opens : Bool}

/-! ## Atoms -/

/-- Where an atom is not found, it is not before what is looked at next. -/
theorem scanFor_missing {pattern : Text} {ahead : Nat} (short : pattern.length ≤ ahead + 1)
    {text : Text} {before : Nat} (scans : scanFor pattern ahead text = (before, false))
    (later : Text) :
    seek pattern (text ++ later) = seek pattern (text.drop before ++ later) := by
  induction text generalizing before with
  | nil =>
      cases scans
      rfl
  | cons byte text induction =>
      rw [scanFor] at scans
      split at scans
      · cases scans
        rfl
      rename_i long
      split at scans
      · cases scans
      rename_i elsewhere
      obtain ⟨rfl, missing⟩ := Prod.mk.inj scans
      have unseen : ¬pattern.isPrefixOf (byte :: (text ++ later)) = true := by
        have known := @isPrefixOf_append_of_le _ _ _ pattern (byte :: text) (by omega) later
        rw [List.cons_append] at known
        rwa [known]
      rw [List.cons_append, seek_cons unseen, List.drop_succ_cons]
      exact induction (Prod.ext rfl missing)

/-- Where an atom is found, it is the first one. -/
theorem scanFor_found {pattern : Text} {ahead : Nat} (short : pattern.length ≤ ahead + 1)
    {text : Text} {before : Nat} (scans : scanFor pattern ahead text = (before, true))
    (later : Text) :
    seek pattern (text ++ later) = some (text.drop before ++ later) ∧
      ahead < (text.drop before).length := by
  induction text generalizing before with
  | nil => cases scans
  | cons byte text induction =>
      rw [scanFor] at scans
      split at scans
      · cases scans
      rename_i long
      have known := @isPrefixOf_append_of_le _ _ _ pattern (byte :: text) (by omega) later
      rw [List.cons_append] at known
      split at scans
      · rename_i here
        cases scans
        rw [List.cons_append, seek_of_isPrefixOf (known.trans here)]
        exact ⟨rfl, Nat.not_le.mp long⟩
      · rename_i elsewhere
        obtain ⟨rfl, found⟩ := Prod.mk.inj scans
        have unseen : ¬pattern.isPrefixOf (byte :: (text ++ later)) = true := by rwa [known]
        rw [List.cons_append, seek_cons unseen, List.drop_succ_cons]
        exact induction (Prod.ext rfl found)

theorem findAtom_other {current next : PlayerMode} {pattern : Text} {ahead skipped : Nat}
    {player : AacPlayer δ} (other : player.mode ≠ current) :
    findAtom current next pattern ahead skipped player = player := if_neg other

/-- What looking for an atom leaves to be read. -/
theorem findAtom_cases {current : PlayerMode} (next : PlayerMode) {pattern : Text}
    {ahead skipped : Nat} (short : pattern.length ≤ ahead + 1) (inside : skipped ≤ ahead)
    {player : AacPlayer δ} (mode : player.mode = current) :
    ∃ bufferRead,
      (findAtom current next pattern ahead skipped player =
          { player with bufferRead := bufferRead } ∧
        ∀ later, seek pattern (player.unread ++ later) =
          seek pattern (player.buffer.drop bufferRead ++ later)) ∨
      findAtom current next pattern ahead skipped player =
          { player with bufferRead := bufferRead, mode := next } ∧
        ∀ later, ∃ atom, seek pattern (player.unread ++ later) = some atom ∧
          atom.drop skipped = player.buffer.drop bufferRead ++ later := by
  rw [findAtom, if_pos mode]
  cases scans : scanFor pattern ahead player.unread with
  | mk before there =>
      cases there with
      | false =>
          refine ⟨player.bufferRead + before, .inl ⟨rfl, fun later => ?_⟩⟩
          rw [scanFor_missing short scans, unread, List.drop_drop]
      | true =>
          refine ⟨player.bufferRead + before + skipped, .inr ⟨rfl, fun later => ?_⟩⟩
          obtain ⟨first, room⟩ := scanFor_found short scans later
          refine ⟨_, first, ?_⟩
          rw [List.drop_append_of_le_length (by omega), unread, List.drop_drop, List.drop_drop,
            Nat.add_assoc]

/-! ## What has been read -/

/-- The decoder has been set up, and then frames have been given to it. -/
structure SetUp (decoder : AacDecoder δ) (start : AacPlayer δ) (setup : Text) (given : List Text)
    (decoded : List Text) (sound : δ × List Int16) : Prop where
  decoded : decoded = start.decoded ++ given
  sound : ∃ handle samplerate channels,
    decoder.init2 start.aacHandle setup = some (handle, samplerate, channels) ∧
      sound = given.foldl (giveFrame decoder start.scale) (handle, start.played)

/-- How far a player has come with a file of which a stream has arrived and a text is left: whatever
comes later, the file says what is read of the text and of that. -/
def Reading (decoder : AacDecoder δ) (start : AacPlayer δ) (stream : Text) (player : AacPlayer δ)
    (text : Text) : Prop :=
  player.scale = start.scale ∧
  let sound := (player.aacHandle, player.played)
  match player.mode with
  | .initialized =>
      player.decoded = start.decoded ∧ sound = (start.aacHandle, start.played) ∧
        player.sampleSizeN = 0 ∧
        ∀ later, SongFile.read (stream ++ later) = SongFile.read (text ++ later)
  | .foundEsds =>
      player.decoded = start.decoded ∧ sound = (start.aacHandle, start.played) ∧
        player.sampleSizeN = 0 ∧
        ∀ later, SongFile.read (stream ++ later) = SongFile.readSetup (text ++ later)
  | .audioInitialized =>
      ∃ setup, SetUp decoder start setup [] player.decoded sound ∧ player.sampleSizeN = 0 ∧
        ∀ later, SongFile.read (stream ++ later) = SongFile.readTable setup (text ++ later)
  | .foundStsz =>
      ∃ setup, SetUp decoder start setup [] player.decoded sound ∧
        ((player.sampleSizeN = 0 ∧
          ∀ later, SongFile.read (stream ++ later) = SongFile.readNumber setup (text ++ later)) ∨
        ∃ more, player.sampleSize.length = player.sampleSizeCurr ∧
          player.sampleSizeN = player.sampleSizeCurr + (more + 1) ∧
          ∀ later, SongFile.read (stream ++ later) =
            SongFile.readSizes setup (more + 1) player.sampleSize (text ++ later))
  | .samplesizeInitialized =>
      ∃ setup, SetUp decoder start setup [] player.decoded sound ∧
        player.sampleSize.length = player.sampleSizeN ∧
        ∀ later, SongFile.read (stream ++ later) =
          SongFile.readData setup player.sampleSize (text ++ later)
  | .recvData =>
      ∃ setup given, SetUp decoder start setup given player.decoded sound ∧
        player.sampleSize.length = player.sampleSizeN ∧
        player.sampleSizeCurr ≤ player.sampleSizeN ∧
        ∀ later, ∃ song, SongFile.read (stream ++ later) = some song ∧
          song.setup = setup ∧ song.sizes = player.sampleSize ∧
          song.frames = given ++
            (framed (player.sampleSize.drop player.sampleSizeCurr) (text ++ later)).frames
  | _ => False

namespace Reading

variable {start player after : AacPlayer δ} {stream text : Text}

/-- What arrives is read behind the text that is left. -/
theorem append (reading : Reading decoder start stream player text) (data : Text) :
    Reading decoder start (stream ++ data) player (text ++ data) := by
  obtain ⟨scale, reading⟩ := reading
  refine ⟨scale, ?_⟩
  simp only [List.append_assoc]
  cases mode : player.mode with
  | initialized =>
      rw [mode] at reading
      exact ⟨reading.1, reading.2.1, reading.2.2.1, fun later => reading.2.2.2 _⟩
  | foundEsds =>
      rw [mode] at reading
      exact ⟨reading.1, reading.2.1, reading.2.2.1, fun later => reading.2.2.2 _⟩
  | audioInitialized =>
      rw [mode] at reading
      obtain ⟨setup, sets, none, agrees⟩ := reading
      exact ⟨setup, sets, none, fun later => agrees _⟩
  | foundStsz =>
      rw [mode] at reading
      obtain ⟨setup, sets, ⟨none, agrees⟩ | ⟨more, count, number, agrees⟩⟩ := reading
      · exact ⟨setup, sets, .inl ⟨none, fun later => agrees _⟩⟩
      · exact ⟨setup, sets, .inr ⟨more, count, number, fun later => agrees _⟩⟩
  | samplesizeInitialized =>
      rw [mode] at reading
      obtain ⟨setup, sets, complete, agrees⟩ := reading
      exact ⟨setup, sets, complete, fun later => agrees _⟩
  | recvData =>
      rw [mode] at reading
      obtain ⟨setup, given, sets, complete, within, agrees⟩ := reading
      exact ⟨setup, given, sets, complete, within, fun later => agrees _⟩
  | _ =>
      rw [mode] at reading
      exact reading

/-! ### The parts of the header -/

theorem findEsds (reading : Reading decoder start stream player player.unread) :
    Reading decoder start stream player.findEsds player.findEsds.unread := by
  rw [AacPlayer.findEsds]
  by_cases mode : player.mode = .initialized
  · rw [Reading, mode] at reading
    obtain ⟨scale, decoded, sound, none, agrees⟩ := reading
    obtain ⟨bufferRead, ⟨found, same⟩ | ⟨found, same⟩⟩ :=
      @findAtom_cases _ _ .foundEsds (ascii "esds") 4 4 (by decide) (by decide) player mode
    · rw [found, Reading]
      dsimp only
      rw [mode]
      refine ⟨scale, decoded, sound, none, fun later => ?_⟩
      rw [agrees, SongFile.read, same]
      rfl
    · rw [found]
      refine ⟨scale, decoded, sound, none, fun later => ?_⟩
      obtain ⟨atom, first, rest⟩ := same later
      rw [agrees, SongFile.read, first, Option.bind_some, rest]
      rfl
  · rw [findAtom_other mode]
    exact reading

theorem initDecoder (reading : Reading decoder start stream player player.unread)
    (result : player.initDecoder decoder opens = (true, after)) :
    Reading decoder start stream after after.unread := by
  rw [AacPlayer.initDecoder] at result
  split at result
  · rename_i mode
    rw [Reading, mode] at reading
    obtain ⟨scale, decoded, sound, none, agrees⟩ := reading
    cases scans : scanFor [5, 128, 128, 128] 10 player.unread with
    | mk before there =>
        rw [scans] at result
        cases there with
        | false =>
            cases result
            rw [Reading]
            dsimp only
            rw [mode]
            refine ⟨scale, decoded, sound, none, fun later => ?_⟩
            rw [agrees, SongFile.readSetup, scanFor_missing (by decide) scans, unread,
              List.drop_drop]
            rfl
        | true =>
            dsimp only at result
            split at result
            · cases result
            rename_i handle samplerate channels inits
            obtain ⟨same, played⟩ := Prod.mk.inj sound
            split at result
            · cases result
              refine ⟨scale, _, ⟨decoded.trans (List.append_nil _).symm, handle, samplerate,
                channels, same ▸ inits, ?_⟩, none, fun later => ?_⟩
              · rw [List.foldl_nil, ← played]
              obtain ⟨first, room⟩ := scanFor_found (by decide) scans later
              have tag : (player.unread.drop before).drop 5 =
                  player.buffer.drop (player.bufferRead + before + 5) := by
                rw [unread, List.drop_drop, List.drop_drop, Nat.add_assoc]
              have rest : (player.unread.drop before).drop 10 =
                  player.buffer.drop (player.bufferRead + before + 5 + 5) := by
                rw [unread, List.drop_drop, List.drop_drop, Nat.add_assoc, Nat.add_assoc]
              have long : 5 ≤ (player.buffer.drop (player.bufferRead + before + 5)).length := by
                rw [← tag, List.length_drop]
                omega
              rw [agrees, SongFile.readSetup, first, Option.bind_some,
                List.drop_append_of_le_length (by omega), tag, List.take_append_of_le_length long,
                List.drop_append_of_le_length (by omega), rest]
              rfl
            · cases result
  · cases result
    exact reading

theorem findStsz (reading : Reading decoder start stream player player.unread) :
    Reading decoder start stream player.findStsz player.findStsz.unread := by
  rw [AacPlayer.findStsz]
  by_cases mode : player.mode = .audioInitialized
  · rw [Reading, mode] at reading
    obtain ⟨scale, setup, sets, none, agrees⟩ := reading
    obtain ⟨bufferRead, ⟨found, same⟩ | ⟨found, same⟩⟩ :=
      @findAtom_cases _ _ .foundStsz (ascii "stsz") 12 12 (by decide) (by decide) player mode
    · rw [found, Reading]
      dsimp only
      rw [mode]
      refine ⟨scale, setup, sets, none, fun later => ?_⟩
      rw [agrees, SongFile.readTable, same]
      rfl
    · rw [found]
      refine ⟨scale, setup, sets, .inl ⟨none, fun later => ?_⟩⟩
      obtain ⟨atom, first, rest⟩ := same later
      rw [agrees, SongFile.readTable, first, Option.bind_some, rest]
      rfl
  · rw [findAtom_other mode]
    exact reading

/-- Words of the table are read one after another. -/
theorem readSizes (mode : player.mode = .foundStsz)
    (reading : Reading decoder start stream player text) (here : player.unread = text) :
    Reading decoder start stream (player.readSizes text) (player.readSizes text).unread := by
  induction player, text using AacPlayer.readSizes.induct with
  | case1 player a b c d e rest zero =>
      have left : player.buffer.drop (player.bufferRead + 4) = e :: rest := by
        rw [← List.drop_drop]
        exact congrArg (List.drop 4) here
      rw [Reading, mode] at reading
      obtain ⟨scale, setup, sets, ⟨-, agrees⟩ | ⟨more, -, number, -⟩⟩ := reading
      · rw [AacPlayer.readSizes, if_pos zero, Reading]
        dsimp only
        rw [mode]
        cases value : ofBigEndian [a, b, c, d] with
        | zero =>
            refine ⟨scale, setup, sets, .inl ⟨rfl, fun later => ?_⟩⟩
            rw [agrees, List.cons_append, List.cons_append, List.cons_append, List.cons_append,
              SongFile.readNumber, if_pos value, unread, left]
        | succ more =>
            refine ⟨scale, setup, sets, .inr ⟨more, rfl, (Nat.zero_add _).symm, fun later => ?_⟩⟩
            rw [agrees, List.cons_append, List.cons_append, List.cons_append, List.cons_append,
              SongFile.readNumber, if_neg (by rw [value]; exact Nat.succ_ne_zero more), unread,
              left, value]
      · omega
  | case2 player a b c d e rest value some next all =>
      have left : player.buffer.drop (player.bufferRead + 4) = e :: rest := by
        rw [← List.drop_drop]
        exact congrArg (List.drop 4) here
      change player.sampleSizeCurr + 1 ≥ player.sampleSizeN at all
      rw [Reading, mode] at reading
      obtain ⟨scale, setup, sets, ⟨none, -⟩ | ⟨more, count, number, agrees⟩⟩ := reading
      · exact absurd none some
      obtain rfl : more = 0 := by omega
      rw [AacPlayer.readSizes, if_neg some]
      dsimp only
      rw [if_pos all]
      refine ⟨scale, setup, sets, ?_, fun later => ?_⟩
      · change (player.sampleSize ++ [value]).length = player.sampleSizeN
        rw [List.length_append, List.length_singleton, count, number]
      · rw [agrees, List.cons_append, List.cons_append, List.cons_append, List.cons_append,
          SongFile.readSizes, SongFile.readSizes, unread, left]
  | case3 player a b c d e rest value some next more induction =>
      have left : player.buffer.drop (player.bufferRead + 4) = e :: rest := by
        rw [← List.drop_drop]
        exact congrArg (List.drop 4) here
      change ¬(player.sampleSizeCurr + 1 ≥ player.sampleSizeN) at more
      rw [Reading, mode] at reading
      obtain ⟨scale, setup, sets, ⟨none, -⟩ | ⟨further, count, number, agrees⟩⟩ := reading
      · exact absurd none some
      obtain ⟨further, rfl⟩ : ∃ fewer, further = fewer + 1 := ⟨further - 1, by omega⟩
      rw [AacPlayer.readSizes, if_neg some]
      dsimp only
      rw [if_neg more]
      refine induction mode ?_ left
      rw [Reading]
      dsimp only [next]
      rw [mode]
      refine ⟨scale, setup, sets, .inr ⟨further, ?_, by omega, fun later => ?_⟩⟩
      · rw [List.length_append, List.length_singleton, count]
      · rw [agrees, List.cons_append, List.cons_append, List.cons_append, List.cons_append,
          SongFile.readSizes]
  | case4 player text short =>
      rw [AacPlayer.readSizes]
      · exact here ▸ reading
      · exact short

theorem readStsz (reading : Reading decoder start stream player player.unread) :
    Reading decoder start stream player.readStsz player.readStsz.unread := by
  rw [AacPlayer.readStsz]
  split
  · rename_i mode
    exact readSizes mode reading rfl
  · exact reading

theorem findMdat (reading : Reading decoder start stream player player.unread) :
    Reading decoder start stream player.findMdat player.findMdat.unread := by
  rw [AacPlayer.findMdat]
  by_cases mode : player.mode = .samplesizeInitialized
  · rw [Reading, mode] at reading
    obtain ⟨scale, setup, sets, complete, agrees⟩ := reading
    obtain ⟨bufferRead, ⟨found, same⟩ | ⟨found, same⟩⟩ :=
      @findAtom_cases _ _ .recvData (ascii "mdat") 4 4 (by decide) (by decide) player mode
    · rw [found]
      dsimp only
      rw [if_neg (fun both => absurd (mode.symm.trans both.2) (by decide)), Reading]
      dsimp only
      rw [mode]
      refine ⟨scale, setup, sets, complete, fun later => ?_⟩
      rw [agrees, SongFile.readData, same]
      rfl
    · rw [found]
      dsimp only
      rw [if_pos ⟨mode, rfl⟩]
      refine ⟨scale, setup, [], sets, complete, Nat.zero_le _, fun later => ?_⟩
      obtain ⟨atom, first, rest⟩ := same later
      refine ⟨⟨setup, player.sampleSize, atom.drop 4⟩, ?_, rfl, rfl, ?_⟩
      · rw [agrees, SongFile.readData, first, Option.map_some]
      · rw [SongFile.frames, rest]
        rfl
  · rw [findAtom_other mode, if_neg (fun both => mode both.1)]
    exact reading

/-! ### Calls -/

/-- Frames that are given to the decoder are the next ones of the file. -/
theorem recvData (consumes : Consumes decoder) (mode : player.mode = .recvData)
    (reading : Reading decoder start stream player player.buffer) {data : Text}
    (room : player.buffer.length + data.length ≤ barPlayerBufsize) :
    ∃ after, player.barPlayerAacCb decoder (fun _ => false) opens data = .ok (true, after) ∧
      Reading decoder start (stream ++ data) after after.buffer := by
  rw [Reading, mode] at reading
  obtain ⟨scale, setup, given, sets, complete, within, agrees⟩ := reading
  have receiving : player.Receiving (player.sampleSize.drop player.sampleSizeCurr) :=
    ⟨mode, complete, rfl, within⟩
  obtain ⟨after, call, gives, further, left⟩ :=
    @barPlayerAacCb_framed _ _ opens consumes _ _ receiving _ room
  refine ⟨after, call, ?_⟩
  rw [Reading, further.mode]
  refine ⟨gives.scale.trans scale, setup,
    given ++ (framed (player.sampleSize.drop player.sampleSizeCurr) (player.buffer ++ data)).frames,
    ⟨?_, ?_⟩, further.complete, further.within, fun later => ?_⟩
  · rw [gives.decoded, sets.decoded, List.append_assoc]
  · obtain ⟨handle, samplerate, channels, inits, sound⟩ := sets.sound
    refine ⟨handle, samplerate, channels, inits, ?_⟩
    rw [gives.sound, sound, scale, List.foldl_append]
  · obtain ⟨song, reads, same, sizes, frames⟩ := agrees (data ++ later)
    rw [List.append_assoc]
    refine ⟨song, reads, same, sizes.trans gives.sampleSize.symm, ?_⟩
    rw [frames, ← List.append_assoc player.buffer, framed_append, left, further.sizes,
      frames_kept, List.append_assoc]

/-- A piece that is taken is read. -/
theorem barPlayerAacCb (consumes : Consumes decoder)
    (reading : Reading decoder start stream player player.buffer) {data : Text}
    (result : player.barPlayerAacCb decoder (fun _ => false) opens data = .ok (true, after)) :
    Reading decoder start (stream ++ data) after after.buffer := by
  by_cases fits : player.buffer.length + data.length ≤ barPlayerBufsize
  · by_cases mode : player.mode = .recvData
    · obtain ⟨other, same, further⟩ := @recvData _ _ opens _ _ _ consumes mode reading data fits
      rw [same] at result
      cases result
      exact further
    · obtain ⟨filled, fills, arrived⟩ : ∃ filled, player.bufferFill data = some filled ∧
          Reading decoder start (stream ++ data) filled filled.unread ∧
            filled.mode ≠ .recvData := ⟨_, if_neg (Nat.not_lt.mpr fits), reading.append data, mode⟩
      rw [AacPlayer.barPlayerAacCb, if_neg Bool.false_ne_true, fills] at result
      dsimp only at result
      rw [if_neg arrived.2] at result
      split at result
      · cases result
      · rename_i next inits
        cases result
        exact (arrived.1.findEsds.initDecoder inits).findStsz.readStsz.findMdat
  · have full : player.bufferFill data = none := if_pos (Nat.not_le.mp fits)
    rw [AacPlayer.barPlayerAacCb, if_neg Bool.false_ne_true, full] at result
    cases result

/-- All pieces that are taken are read. -/
theorem receive (consumes : Consumes decoder)
    (reading : Reading decoder start stream player player.buffer) {pieces : List Text}
    (result : player.receive decoder opens pieces = .ok (true, after)) :
    Reading decoder start (stream ++ pieces.flatten) after after.buffer := by
  induction pieces generalizing player stream with
  | nil =>
      cases result
      rw [List.flatten_nil, List.append_nil]
      exact reading
  | cons piece pieces induction =>
      rw [AacPlayer.receive] at result
      split at result
      · cases result
      · cases result
      · rename_i next called
        rw [List.flatten_cons, ← List.append_assoc]
        exact induction (reading.barPlayerAacCb consumes called) result

end Reading

/-! ## Songs -/

end AacPlayer

end Pianod
