import Pianod.Foundation.BigEndian
import Pianod.Foundation.FallibleRun
import Pianod.Foundation.Framing
import Pianod.Server.Application
import Pianod.Server.ReplayGain
import Pianod.Waitress.Pieces

/-!
# Playing what arrives

The callback of the player collects what arrives in a buffer and looks there for the parts of the
file in turn: the set-up of the decoder, the sizes of the frames, and the frames.  What is decoded
and played of the frames does not depend on how the song arrives, nor on the reads of a fetch.
-/

namespace Pianod

open Foundation Waitress

/-- What the decoder tells about a frame. -/
structure FrameInfo where
  /-- Whether the frame is broken. -/
  error : Bool
  /-- How much of the input was used. -/
  bytesconsumed : Nat
  /-- The samples of the frame. -/
  samples : List Int16

/-- The decoder: its set-up, which gives a sample rate and a number of channels, and the decoding of
a frame. -/
structure AacDecoder (δ : Type) where
  /-- Set up by the configuration of the file: the rate and the channels, or a failure. -/
  init2 : δ → Text → Option (δ × Nat × Nat)
  /-- Decode one frame. -/
  decode : δ → Text → δ × FrameInfo

/-- What the callback uses of the player; `decoded` are the frames that the decoder was given, and
`played` the samples that the audio device was given. -/
structure AacPlayer (δ : Type) where
  /-- What the callback looks for next. -/
  mode : PlayerMode
  /-- The state of the decoder. -/
  aacHandle : δ
  /-- The bytes that are not used up. -/
  buffer : Text
  /-- How much of the buffer was used. -/
  bufferRead : Nat
  /-- How much was received in all. -/
  bytesReceived : Nat
  /-- How many frames the table has. -/
  sampleSizeN : Nat
  /-- The frame that is next. -/
  sampleSizeCurr : Nat
  /-- The sizes of the frames. -/
  sampleSize : List Nat
  samplerate : Nat
  channels : Nat
  /-- The factor of the samples. -/
  scale : UInt32
  /-- What was played of the song. -/
  songPlayed : Nat
  songDuration : Nat
  /-- Whether the device refused samples. -/
  aoError : Bool
  decoded : List Text
  played : List Int16

def barPlayerBufsize : Nat := bufferSize * 2

namespace AacPlayer

variable {δ : Type} (decoder : AacDecoder δ)

/-- The bytes that have not been used. -/
def unread (player : AacPlayer δ) : Text := player.buffer.drop player.bufferRead

/-- Put what arrives behind what is there, if there is room. -/
def bufferFill (player : AacPlayer δ) (data : Text) : Option (AacPlayer δ) :=
  if player.buffer.length + data.length > barPlayerBufsize then none
  else some { player with
    buffer := player.buffer ++ data
    bufferRead := 0
    bytesReceived := player.bytesReceived + data.length }

/-- Keep the bytes that have not been used. -/
def bufferMove (player : AacPlayer δ) : AacPlayer δ := { player with buffer := player.unread }

/-- Milliseconds that a number of samples lasts. -/
def milliseconds (player : AacPlayer δ) (samples : Nat) : Nat :=
  samples * 1000 / player.samplerate / (if player.channels = 0 then 1 else player.channels)

/-! ## The header of the file -/

/-- Look for an atom where more than `ahead` bytes are left; the number of bytes before it. -/
def scanFor (pattern : Text) (ahead : Nat) : Text → Nat × Bool
  | [] => (0, false)
  | byte :: rest =>
      if (byte :: rest).length ≤ ahead then (0, false)
      else if pattern.isPrefixOf (byte :: rest) then (0, true)
      else ((scanFor pattern ahead rest).1 + 1, (scanFor pattern ahead rest).2)

/-- Look for an atom in one mode, and go on behind it in the next. -/
def findAtom (current next : PlayerMode) (pattern : Text) (ahead skipped : Nat)
    (player : AacPlayer δ) : AacPlayer δ :=
  if player.mode = current then
    match scanFor pattern ahead player.unread with
    | (before, false) => { player with bufferRead := player.bufferRead + before }
    | (before, true) => { player with
        bufferRead := player.bufferRead + before + skipped
        mode := next }
  else player

def findEsds : AacPlayer δ → AacPlayer δ := findAtom .initialized .foundEsds (ascii "esds") 4 4

/-- The version and an unknown part of the atom are skipped, too. -/
def findStsz : AacPlayer δ → AacPlayer δ :=
  findAtom .audioInitialized .foundStsz (ascii "stsz") 12 12

def findMdat (player : AacPlayer δ) : AacPlayer δ :=
  let found := findAtom .samplesizeInitialized .recvData (ascii "mdat") 4 4 player
  if player.mode = .samplesizeInitialized ∧ found.mode = .recvData then
    { found with sampleSizeCurr := 0 }
  else found

/-- Set up the decoder and open the audio device. -/
def initDecoder (opens : Bool) (player : AacPlayer δ) : Bool × AacPlayer δ :=
  if player.mode = .foundEsds then
    match scanFor [5, 128, 128, 128] 10 player.unread with
    | (before, false) => (true, { player with bufferRead := player.bufferRead + before })
    | (before, true) =>
        let start := player.bufferRead + before + 5
        match decoder.init2 player.aacHandle ((player.buffer.drop start).take 5) with
        | none => (false, { player with bufferRead := start + 5 })
        | some (handle, samplerate, channels) =>
            let player := { player with
              bufferRead := start + 5
              aacHandle := handle
              samplerate := samplerate
              channels := channels }
            if opens then (true, { player with mode := .audioInitialized })
            else (false, { player with aoError := true })
  else (true, player)

/-- The number of frames, and their sizes.  The number is read again while it is zero, and the sizes
are read when the next piece has arrived. -/
def readSizes (player : AacPlayer δ) : Text → AacPlayer δ
  | a :: b :: c :: d :: e :: rest =>
      let value := ofBigEndian [a, b, c, d]
      if player.sampleSizeN = 0 then { player with
        sampleSizeN := value
        sampleSize := []
        bufferRead := player.bufferRead + 4
        sampleSizeCurr := 0
        songDuration := player.milliseconds (value * 4096) }
      else
        let player := { player with
          sampleSize := player.sampleSize ++ [value]
          sampleSizeCurr := player.sampleSizeCurr + 1
          bufferRead := player.bufferRead + 4 }
        if player.sampleSizeCurr ≥ player.sampleSizeN then
          { player with mode := .samplesizeInitialized }
        else player.readSizes (e :: rest)
  | _ => player

def readStsz (player : AacPlayer δ) : AacPlayer δ :=
  if player.mode = .foundStsz then player.readSizes player.unread else player

/-! ## The frames -/

/-- Decode a frame and play it; a frame with an error is skipped. -/
def playFrame (player : AacPlayer δ) (size : Nat) : Except Fault (AacPlayer δ) :=
  let frame := player.unread.take size
  let (handle, frameInfo) := decoder.decode player.aacHandle frame
  let player := { player with
    aacHandle := handle
    bufferRead := player.bufferRead + size
    sampleSizeCurr := player.sampleSizeCurr + 1
    decoded := player.decoded ++ [frame] }
  if frameInfo.error then .ok player
  else if frameInfo.bytesconsumed ≠ size then
    .error (.assertion "frameInfo.bytesconsumed == player->sampleSize[player->sampleSizeCurr-1]")
  else .ok { player with
    played := player.played ++ frameInfo.samples.map (applyReplayGain · player.scale)
    songPlayed := player.songPlayed + player.milliseconds frameInfo.samples.length }

/-- The loop over the frames that are there; `quits` answers each check whether to quit. -/
def playFrames (quits : Nat → Bool) : Nat → List Nat → AacPlayer δ →
    Except Fault (Bool × AacPlayer δ)
  | _, [], player => .ok (true, player)
  | check, size :: sizes, player =>
      if player.unread.length < size then .ok (true, player)
      else if quits check then .ok (false, player)
      else match player.playFrame decoder size with
        | .error fault => .error fault
        | .ok player => playFrames quits (check + 1) sizes player

/-- The callback; it tells whether the fetch goes on. -/
def barPlayerAacCb (quits : Nat → Bool) (opens : Bool) (player : AacPlayer δ) (data : Text) :
    Except Fault (Bool × AacPlayer δ) :=
  if quits 0 then .ok (false, player)
  else match player.bufferFill data with
    | none => .ok (false, player)
    | some player =>
        if player.mode = .recvData then
          match playFrames decoder quits 1
              ((player.sampleSize.take player.sampleSizeN).drop player.sampleSizeCurr) player with
          | .error fault => .error fault
          | .ok (false, player) => .ok (false, player)
          | .ok (true, player) =>
              -- What comes after the last frame is dropped.
              .ok (true, (if player.sampleSizeCurr ≥ player.sampleSizeN then
                { player with bufferRead := player.buffer.length } else player).bufferMove)
        else match player.findEsds.initDecoder decoder opens with
          | (false, player) => .ok (false, player)
          | (true, player) => .ok (true, player.findStsz.readStsz.findMdat.bufferMove)

/-- The callback is given one piece after another, and is not asked to quit. -/
def receive (opens : Bool) (player : AacPlayer δ) : List Text → Except Fault (Bool × AacPlayer δ)
  | [] => .ok (true, player)
  | piece :: pieces =>
      match player.barPlayerAacCb decoder (fun _ => false) opens piece with
      | .error fault => .error fault
      | .ok (false, player) => .ok (false, player)
      | .ok (true, player) => player.receive opens pieces

/-! ## What is decoded and played -/

/-- A decoder that takes each frame that it decodes as a whole. -/
def Consumes (decoder : AacDecoder δ) : Prop :=
  ∀ handle frame, (decoder.decode handle frame).2.error = false →
    (decoder.decode handle frame).2.bytesconsumed = frame.length

/-- What the decoder makes of a frame, and what is played of it. -/
def giveFrame (scale : UInt32) (sound : δ × List Int16) (frame : Text) : δ × List Int16 :=
  let (handle, frameInfo) := decoder.decode sound.1 frame
  (handle, if frameInfo.error then sound.2
    else sound.2 ++ frameInfo.samples.map (applyReplayGain · scale))

/-- From one state to another the frames of a stream have been given to the decoder. -/
structure Gives (before : AacPlayer δ) (frames : List Text) (after : AacPlayer δ) : Prop where
  mode : after.mode = before.mode
  sampleSizeN : after.sampleSizeN = before.sampleSizeN
  sampleSize : after.sampleSize = before.sampleSize
  scale : after.scale = before.scale
  sampleSizeCurr : after.sampleSizeCurr = before.sampleSizeCurr + frames.length
  decoded : after.decoded = before.decoded ++ frames
  sound : (after.aacHandle, after.played) =
    frames.foldl (giveFrame decoder before.scale) (before.aacHandle, before.played)

namespace Gives

variable {decoder} {before middle after : AacPlayer δ} {frames later : List Text}

theorem nil (player : AacPlayer δ) : Gives decoder player [] player where
  mode := rfl
  sampleSizeN := rfl
  sampleSize := rfl
  scale := rfl
  sampleSizeCurr := rfl
  decoded := (List.append_nil _).symm
  sound := rfl

theorem trans (first : Gives decoder before frames middle)
    (next : Gives decoder middle later after) : Gives decoder before (frames ++ later) after where
  mode := next.mode.trans first.mode
  sampleSizeN := next.sampleSizeN.trans first.sampleSizeN
  sampleSize := next.sampleSize.trans first.sampleSize
  scale := next.scale.trans first.scale
  sampleSizeCurr := by
    rw [next.sampleSizeCurr, first.sampleSizeCurr, List.length_append, Nat.add_assoc]
  decoded := by rw [next.decoded, first.decoded, List.append_assoc]
  sound := by rw [next.sound, first.sound, first.scale, List.foldl_append]

end Gives

section Frames

variable {decoder} {opens : Bool}

/-- A frame that is there is decoded, and what comes of it is played. -/
theorem playFrame_gives (consumes : Consumes decoder) {player : AacPlayer δ} {size : Nat}
    (whole : size ≤ player.unread.length) :
    ∃ next, player.playFrame decoder size = .ok next ∧
      Gives decoder player [player.unread.take size] next ∧
      next.unread = player.unread.drop size := by
  have consumed := consumes player.aacHandle (player.unread.take size)
  rw [List.length_take_of_le whole] at consumed
  have left : player.buffer.drop (player.bufferRead + size) = player.unread.drop size := by
    rw [unread, List.drop_drop]
  cases decodes : decoder.decode player.aacHandle (player.unread.take size) with
  | mk handle frameInfo =>
      have given : giveFrame decoder player.scale (player.aacHandle, player.played)
          (player.unread.take size) = (handle, if frameInfo.error then player.played
            else player.played ++ frameInfo.samples.map (applyReplayGain · player.scale)) := by
        rw [giveFrame, decodes]
      rw [decodes] at consumed
      rw [playFrame]
      simp only [decodes]
      cases failed : frameInfo.error with
      | true =>
          rw [if_pos rfl]
          refine ⟨_, rfl, ⟨rfl, rfl, rfl, rfl, rfl, rfl, ?_⟩, left⟩
          rw [List.foldl_cons, List.foldl_nil, given, failed]
          rfl
      | false =>
          rw [if_neg Bool.false_ne_true, if_neg (not_not_intro (consumed failed))]
          refine ⟨_, rfl, ⟨rfl, rfl, rfl, rfl, rfl, rfl, ?_⟩, left⟩
          rw [List.foldl_cons, List.foldl_nil, given, failed]
          rfl

/-- The loop gives the decoder the frames that are complete, and leaves the rest. -/
theorem playFrames_framed (consumes : Consumes decoder) (check : Nat) (sizes : List Nat)
    (player : AacPlayer δ) :
    ∃ after, playFrames decoder (fun _ => false) check sizes player = .ok (true, after) ∧
      Gives decoder player (framed sizes player.unread).frames after ∧
      after.unread = (framed sizes player.unread).rest := by
  induction sizes generalizing player check with
  | nil => exact ⟨player, rfl, Gives.nil player, rfl⟩
  | cons size sizes induction =>
      by_cases short : player.unread.length < size
      · rw [framed_of_lt short]
        exact ⟨player, if_pos short, Gives.nil player, rfl⟩
      have whole := Nat.not_lt.mp short
      obtain ⟨next, plays, first, moved⟩ := playFrame_gives consumes whole
      obtain ⟨after, further, later, left⟩ := induction (check + 1) next
      rw [framed_of_le whole, playFrames, if_neg short, if_neg Bool.false_ne_true, plays]
      rw [moved] at later left
      exact ⟨after, further, first.trans later, left⟩

/-- The header of the file has been read, and the frames of some sizes are still to come. -/
structure Receiving (player : AacPlayer δ) (sizes : List Nat) : Prop where
  mode : player.mode = .recvData
  complete : player.sampleSize.length = player.sampleSizeN
  sizes : player.sampleSize.drop player.sampleSizeCurr = sizes
  within : player.sampleSizeCurr ≤ player.sampleSizeN

/-- What is kept of a stream: nothing when the last frame has been taken. -/
def kept (result : Framed UInt8) : Text := if result.sizes = [] then [] else result.rest

namespace Receiving

variable {player after : AacPlayer δ} {sizes : List Nat}

theorem all_taken (receiving : player.Receiving sizes) :
    player.sampleSizeCurr ≥ player.sampleSizeN ↔ sizes = [] := by
  have count := congrArg List.length receiving.sizes
  rw [List.length_drop, receiving.complete] at count
  rw [← List.length_eq_zero_iff]
  omega

/-- When frames have been given to the decoder, those of the sizes that are left are to come. -/
theorem of_gives (receiving : player.Receiving sizes) {stream : Text}
    (gives : Gives decoder player (framed sizes stream).frames after) :
    after.Receiving (framed sizes stream).sizes where
  mode := gives.mode.trans receiving.mode
  complete := by
    rw [gives.sampleSize, gives.sampleSizeN]
    exact receiving.complete
  sizes := by
    rw [gives.sampleSize, gives.sampleSizeCurr, ← drop_length_frames, ← receiving.sizes,
      List.drop_drop]
  within := by
    have total := length_frames sizes stream
    have count := congrArg List.length receiving.sizes
    have within := receiving.within
    rw [List.length_drop, receiving.complete] at count
    rw [gives.sampleSizeN, gives.sampleSizeCurr]
    omega

end Receiving

private theorem bufferFill_gives {player : AacPlayer δ} {data : Text}
    (room : player.buffer.length + data.length ≤ barPlayerBufsize) :
    ∃ filled, player.bufferFill data = some filled ∧ Gives decoder player [] filled ∧
      filled.unread = player.buffer ++ data :=
  ⟨_, if_neg (Nat.not_lt.mpr room),
    ⟨rfl, rfl, rfl, rfl, rfl, (List.append_nil _).symm, rfl⟩, rfl⟩

/-- A piece for which there is room gives the decoder the frames that it completes. -/
theorem barPlayerAacCb_framed (consumes : Consumes decoder) {player : AacPlayer δ}
    {sizes : List Nat} (receiving : player.Receiving sizes) {data : Text}
    (room : player.buffer.length + data.length ≤ barPlayerBufsize) :
    ∃ after, player.barPlayerAacCb decoder (fun _ => false) opens data = .ok (true, after) ∧
      Gives decoder player (framed sizes (player.buffer ++ data)).frames after ∧
      after.Receiving (framed sizes (player.buffer ++ data)).sizes ∧
      after.buffer = kept (framed sizes (player.buffer ++ data)) := by
  obtain ⟨filled, fills, first, arrived⟩ := @bufferFill_gives _ decoder _ _ room
  obtain ⟨played, plays, later, left⟩ := playFrames_framed consumes 1 sizes filled
  rw [arrived] at later left
  have gives : Gives decoder player (framed sizes (player.buffer ++ data)).frames played :=
    first.trans later
  have further := receiving.of_gives gives
  have coming : (filled.sampleSize.take filled.sampleSizeN).drop filled.sampleSizeCurr = sizes := by
    rw [first.sampleSize, first.sampleSizeN, first.sampleSizeCurr, ← receiving.complete,
      List.take_length]
    exact receiving.sizes
  refine ⟨(if played.sampleSizeCurr ≥ played.sampleSizeN then
    { played with bufferRead := played.buffer.length } else played).bufferMove, ?_, ?_, ?_, ?_⟩
  · rw [barPlayerAacCb, if_neg Bool.false_ne_true, fills]
    dsimp only
    rw [if_pos (first.mode.trans receiving.mode), coming, plays]
  · split <;> exact ⟨gives.mode, gives.sampleSizeN, gives.sampleSize, gives.scale,
      gives.sampleSizeCurr, gives.decoded, gives.sound⟩
  · split <;> exact ⟨further.mode, further.complete, further.sizes, further.within⟩
  · rw [kept]
    by_cases ended : (framed sizes (player.buffer ++ data)).sizes = []
    · rw [if_pos (further.all_taken.mpr ended), if_pos ended]
      exact List.drop_length
    · rw [if_neg (fun enough => ended (further.all_taken.mp enough)), if_neg ended]
      exact left

/-- What is dropped behind the last frame makes no difference. -/
theorem frames_kept (result : Framed UInt8) (later : Text) :
    (framed result.sizes (kept result ++ later)).frames =
      (framed result.sizes (result.rest ++ later)).frames := by
  rw [kept]
  split
  · rename_i ended
    rw [ended, framed_nil, framed_nil]
  · rfl

private theorem length_kept_le {sizes : List Nat} {stream : Text}
    (small : ∀ size ∈ sizes, size ≤ bufferSize) :
    (kept (framed sizes stream)).length ≤ bufferSize := by
  rw [kept]
  split
  · exact Nat.zero_le _
  · obtain ⟨size, later, more⟩ := List.exists_cons_of_ne_nil ‹_›
    have member : size ∈ sizes :=
      (sizes_suffix sizes stream).subset (more ▸ List.mem_cons_self)
    exact (length_rest_lt more).le.trans (small size member)

/-- However a song arrives, its frames are given to the decoder as the sizes say, each of them once
it is complete; so what is played depends on the bytes only. -/
theorem receive_frames (consumes : Consumes decoder) {player : AacPlayer δ} {sizes : List Nat}
    (receiving : player.Receiving sizes) (small : ∀ size ∈ sizes, size ≤ bufferSize)
    {piece : Text} (room : player.buffer.length + piece.length ≤ barPlayerBufsize)
    {pieces : List Text} (short : ∀ piece ∈ pieces, piece.length ≤ bufferSize) :
    ∃ last, player.receive decoder opens (piece :: pieces) = .ok (true, last) ∧
      Gives decoder player
        (framed sizes (player.buffer ++ (piece :: pieces).flatten)).frames last := by
  induction pieces generalizing player sizes piece with
  | nil =>
      obtain ⟨after, call, gives, -⟩ :=
        @barPlayerAacCb_framed _ _ opens consumes _ _ receiving _ room
      rw [receive, call, List.flatten_singleton]
      exact ⟨after, rfl, gives⟩
  | cons next pieces induction =>
      obtain ⟨after, call, gives, further, left⟩ :=
        @barPlayerAacCb_framed _ _ opens consumes _ _ receiving _ room
      have fewer : ∀ size ∈ (framed sizes (player.buffer ++ piece)).sizes, size ≤ bufferSize :=
        fun size member => small size ((sizes_suffix _ _).subset member)
      have bound : after.buffer.length ≤ bufferSize := left ▸ length_kept_le small
      have fits : after.buffer.length + next.length ≤ barPlayerBufsize := by
        have limit := short next List.mem_cons_self
        rw [barPlayerBufsize]
        omega
      obtain ⟨last, runs, later⟩ := induction further fewer fits fun other member =>
        short other (List.mem_cons_of_mem _ member)
      refine ⟨last, by rw [receive, call]; exact runs, ?_⟩
      rw [left, frames_kept] at later
      rw [List.flatten_cons, ← List.append_assoc, framed_append]
      exact gives.trans later

end Frames

/-- A decoder that makes a sample of each byte. -/
def plainDecoder : AacDecoder Unit where
  init2 _ _ := some ((), 44100, 2)
  decode _ frame := ((), ⟨false, frame.length, frame.map fun byte => Int16.ofNat byte.toNat⟩)

def newPlayer : AacPlayer Unit :=
  ⟨.initialized, (), [], 0, 0, 0, 0, [], 0, 0, 100, 0, 0, false, [], []⟩

/-! ## Frames that are fetched -/

/-- The player as the callback of a fetch; a fault ends it. -/
def aacConsumer (decoder : AacDecoder δ) (opens : Bool) :
    Consumer (Except Fault (AacPlayer δ)) UInt8
  | .error fault, _ => (.error fault, false)
  | .ok player, data =>
      match player.barPlayerAacCb decoder (fun _ => false) opens data with
      | .error fault => (.error fault, false)
      | .ok (goesOn, player) => (.ok player, goesOn)

/-- A fetch gives the player the pieces that the player takes. -/
theorem feed_of_receive {decoder : AacDecoder δ} {opens : Bool} {player last : AacPlayer δ}
    {pieces : List Text} (runs : player.receive decoder opens pieces = .ok (true, last)) :
    feed (aacConsumer decoder opens) (.ok player) pieces = (.ok last, true) := by
  induction pieces generalizing player with
  | nil =>
      cases runs
      rfl
  | cons piece pieces induction =>
      rw [receive] at runs
      rw [feed, aacConsumer]
      cases called : player.barPlayerAacCb decoder (fun _ => false) opens piece with
      | error fault =>
          rw [called] at runs
          cases runs
      | ok outcome =>
          obtain ⟨goesOn, next⟩ := outcome
          rw [called] at runs
          cases goesOn with
          | false => cases runs
          | true => exact induction runs

/-- A fetch that goes on with a song gives the decoder the frames of what was left of the song and
of the body of the response, whatever reads the body arrives in.  The player does not stop it. -/
theorem fetchCall_frames {decoder : AacDecoder δ} {opens : Bool} (consumes : Consumes decoder)
    {player : AacPlayer δ} {sizes : List Nat} (receiving : player.Receiving sizes)
    (small : ∀ size ∈ sizes, size ≤ bufferSize) (room : player.buffer.length ≤ bufferSize)
    {link : Link} {fuel : Nat} (enough : link.turns ≤ fuel) :
    ∃ code buffer last, fetchBuf fuel link = some (code, buffer) ∧
      fetchCall (aacConsumer decoder opens) fuel (.ok player) link = some (code, .ok last) ∧
      (buffer = none → last = player) ∧
      ∀ body, buffer = some body →
        Gives decoder player (framed sizes (player.buffer ++ body)).frames last := by
  obtain ⟨code, pieces, short, collects, fetches⟩ := fetchCall_fed enough
  cases pieces with
  | nil =>
      refine ⟨code, none, player, collects, fetches _ _ _, fun _ => rfl, fun body same => ?_⟩
      cases same
  | cons piece pieces =>
      have start : player.buffer.length + piece.length ≤ barPlayerBufsize := by
        have limit := short piece List.mem_cons_self
        rw [barPlayerBufsize]
        omega
      obtain ⟨last, runs, gives⟩ := @receive_frames _ _ opens consumes _ _ receiving small _ start
        pieces fun piece member => (short piece (List.mem_cons_of_mem _ member)).le
      refine ⟨code, some (piece :: pieces).flatten, last, collects, ?_, fun same => ?_,
        fun body same => ?_⟩
      · rw [fetches, feed_of_receive runs]
        rfl
      · cases same
      · cases same
        exact gives

/-- A player that has read the header of a file with frames of one and of two bytes. -/
def readyPlayer : AacPlayer Unit :=
  { newPlayer with mode := .recvData, sampleSizeN := 2, sampleSize := [1, 2] }

theorem fetchCall_frames_three :
    let link : Link := ⟨none, .ok ⟨[ascii "HTTP/1.1 200 OK\n\n", [7, 8], [9]], none⟩⟩
    ∃ code buffer last, fetchBuf 40 link = some (code, buffer) ∧
      fetchCall (aacConsumer plainDecoder true) 40 (.ok readyPlayer) link =
        some (code, .ok last) ∧
      (buffer = none → last = readyPlayer) ∧
      ∀ body, buffer = some body →
        Gives plainDecoder readyPlayer (framed [1, 2] body).frames last := by
  intro link
  have consumes : Consumes plainDecoder := fun _ _ _ => rfl
  have receiving : readyPlayer.Receiving [1, 2] := ⟨rfl, rfl, rfl, Nat.zero_le _⟩
  have small : ∀ size ∈ [1, 2], size ≤ bufferSize := by decide
  exact fetchCall_frames consumes receiving small (Nat.zero_le _) (by decide)

end AacPlayer

end Pianod
