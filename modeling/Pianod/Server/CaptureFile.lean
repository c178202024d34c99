import Pianod.Foundation.StringBlock
import Pianod.Server.Application

/-!
# Names of captured files

When a directory for captures is set, the stream of each song is written to a file there.  The name
of the file is put together in a block: the directory, the artist and the title, in which the
characters that are special in names of files are replaced, and a suffix.
-/

namespace Pianod

open Foundation Foundation.FallibleRun Foundation.StringBlock

/-- The directory for captures and its length. -/
structure CaptureSettings where
  capturePath : Text
  capturePathlen : Int
deriving DecidableEq, Repr

/-- What setting the directory stores. -/
def CaptureSettings.ofPath (path : Text) : CaptureSettings :=
  ⟨path, MachineInt.ofLong path.length⟩

/-- The characters that are replaced, and what stands for them. -/
def captureReplacements : List (UInt8 × UInt8) :=
  (ascii "<>:\"*?/\\|").zip (ascii "[];'!!___")

/-- What stands for a character in the name of a file. -/
def captureNormalize (ch : UInt8) : UInt8 := (captureReplacements.lookup ch).getD ch

/-- Append a string to a name, and fix up what is not legal there. -/
def captureNormalizeStrcat (fname str : Text) : Except Fault Text := do
  let optr ← strlen fname
  write fname optr (str.map captureNormalize ++ [0])

/-- The byte between the names of directories and files. -/
def slash : UInt8 := 47

/-- The suffix of a captured file. -/
def captureSuffix (audioFormat : AudioFormat) : Text :=
  if audioFormat = .aacplus then ascii ".aac" else ascii ".mp3"

namespace CaptureSettings

/-- Put a separator after the directory, unless it ends with one. -/
def separate (settings : CaptureSettings) (fileName : Text) : Except Fault Text := do
  let index ← MachineInt.result (settings.capturePathlen - 1)
  let last ← byteAt fileName index
  if last ≠ slash then
    let fileName ← setByte fileName settings.capturePathlen slash
    let index ← MachineInt.result (settings.capturePathlen + 1)
    setByte fileName index 0
  else return fileName

/-- Fill in the name of the file for a song. -/
def fillIn (settings : CaptureSettings) (song : PianoSong) (audioFormat : AudioFormat)
    (fileName : Text) : Except Fault Text := do
  let fileName ← strcpy fileName settings.capturePath
  let fileName ← settings.separate fileName
  let fileName ← captureNormalizeStrcat fileName song.artist
  let fileName ← strcat fileName (ascii " - ")
  let fileName ← captureNormalizeStrcat fileName song.title
  strcat fileName (captureSuffix audioFormat)

/-- The size of the name: the suffix, the punctuation, and the separator and the terminator. -/
def captureSize (namelen : Int) : Except Fault Int := do
  let size ← MachineInt.result (namelen + 4)
  let size ← MachineInt.result (size + 3)
  MachineInt.result (size + 2)

/-- Allocate the name of the file for a song and fill it in. -/
def captureOpenFile (settings : CaptureSettings) (content : Nat → UInt8) (song : PianoSong)
    (audioFormat : AudioFormat) : Except Fault Text := do
  let namelen := settings.capturePathlen
  -- The lengths are added as numbers of type `size_t`.
  let namelen := MachineInt.ofLong (MachineInt.toSize namelen + song.artist.length)
  let namelen := MachineInt.ofLong (MachineInt.toSize namelen + song.title.length)
  let size ← captureSize namelen
  match malloc content (MachineInt.toSize size) with
  | none => .error .nullDereference
  | some fileName => settings.fillIn song audioFormat fileName

end CaptureSettings

/-! ## The name -/

/-- The characters that are not to be in the name of a file in its directory. -/
def reservedCharacters : Text := ascii "/\\:\"*?<>|"

/-- A directory with a separator after it. -/
def withSeparator (path : Text) : Text :=
  if path.getLast? = some slash then path else path ++ [slash]

/-- The name of a file without the directory. -/
def captureName (song : PianoSong) (audioFormat : AudioFormat) : Text :=
  song.artist.map captureNormalize ++ ascii " - " ++ song.title.map captureNormalize ++
    captureSuffix audioFormat

theorem mem_of_lookup {ch replaced : UInt8}
    (found : captureReplacements.lookup ch = some replaced) :
    (ch, replaced) ∈ captureReplacements := by
  obtain ⟨front, back, parts, -⟩ := List.lookup_eq_some_iff.mp found
  rw [parts]
  simp

private theorem captureNormalize_not_reserved (ch : UInt8) :
    captureNormalize ch ∉ reservedCharacters := by
  have keys : reservedCharacters.all (captureReplacements.map Prod.fst).contains = true := rfl
  have values : captureReplacements.all (fun pair => !reservedCharacters.contains pair.2) = true :=
    rfl
  rw [captureNormalize]
  cases found : captureReplacements.lookup ch with
  | none =>
      intro special
      have known := List.all_eq_true.mp keys ch special
      obtain ⟨pair, member, rfl⟩ := List.mem_map.mp (List.contains_iff_mem.mp known)
      have other := List.lookup_eq_none_iff.mp found pair member
      simp at other
  | some replaced =>
      have plain := List.all_eq_true.mp values _ (mem_of_lookup found)
      simpa using plain

private theorem captureNormalize_ne_zero {ch : UInt8} (other : ch ≠ 0) :
    captureNormalize ch ≠ 0 := by
  have values : captureReplacements.all (fun pair => pair.2 != 0) = true := rfl
  rw [captureNormalize]
  cases found : captureReplacements.lookup ch with
  | none => exact other
  | some replaced =>
      have plain := List.all_eq_true.mp values _ (mem_of_lookup found)
      simpa using plain

theorem nulFree_normalized {text : Text} (free : Text.NulFree text) :
    Text.NulFree (text.map captureNormalize) := by
  intro byte member
  obtain ⟨ch, inside, rfl⟩ := List.mem_map.mp member
  exact captureNormalize_ne_zero (free ch inside)

/-- Nothing that is special is in the name. -/
theorem captureName_not_reserved (song : PianoSong) (audioFormat : AudioFormat) :
    ∀ byte ∈ captureName song audioFormat, byte ∉ reservedCharacters := by
  have normalized (text : Text) : ∀ byte ∈ text.map captureNormalize,
      byte ∉ reservedCharacters := by
    intro byte member
    obtain ⟨ch, -, rfl⟩ := List.mem_map.mp member
    exact captureNormalize_not_reserved ch
  have dash : (ascii " - ").all (fun byte => !reservedCharacters.contains byte) = true := rfl
  have suffix : (captureSuffix audioFormat).all (fun byte => !reservedCharacters.contains byte) =
      true := by
    cases audioFormat <;> rfl
  intro byte member
  simp only [captureName, List.mem_append] at member
  rcases member with ((artist | between) | title) | ending
  · exact normalized _ byte artist
  · simpa using List.all_eq_true.mp dash byte between
  · exact normalized _ byte title
  · simpa using List.all_eq_true.mp suffix byte ending

private theorem length_captureName (song : PianoSong) (audioFormat : AudioFormat) :
    (captureName song audioFormat).length = song.artist.length + song.title.length + 7 := by
  have suffix : (captureSuffix audioFormat).length = 4 := by
    cases audioFormat <;> decide
  have dash : (ascii " - ").length = 3 := by decide
  simp only [captureName, List.length_append, List.length_map, suffix, dash]
  omega

theorem length_withSeparator (path : Text) : path.length ≤ (withSeparator path).length ∧
    (withSeparator path).length ≤ path.length + 1 := by
  rw [withSeparator]
  split
  · exact ⟨Nat.le_refl _, Nat.le_succ _⟩
  · rw [List.length_append]
    exact ⟨Nat.le_add_right _ _, Nat.le_refl _⟩

/-! ## Filling in -/

variable {path block : Text} {song : PianoSong} {audioFormat : AudioFormat} {size total : Nat}

private theorem captureNormalizeStrcat_eq (fname str : Text) :
    captureNormalizeStrcat fname str = strcat fname (str.map captureNormalize) := rfl

/-- After the directory follows a separator, or there is no room for it. -/
theorem CaptureSettings.separate_outcome (nonempty : path ≠ []) (holds : Holds block size path)
    (small : size < 2 ^ 31) (enough : path.length + 1 ≤ total) :
    Outcome (Holds · size (withSeparator path)) (fun _ => size ≤ total)
      ((ofPath path).separate block) := by
  have short := holds.length_lt
  obtain ⟨rest, parts⟩ := holds.ends
  have positive := List.length_pos_iff.mpr nonempty
  have pathlen : MachineInt.ofLong path.length = path.length :=
    MachineInt.ofLong_eq ⟨by omega, by omega⟩
  have index : MachineInt.result ((path.length : Int) - 1) = .ok ((path.length : Int) - 1) :=
    MachineInt.result_of_fits ⟨by omega, by omega⟩
  have next : MachineInt.result ((path.length : Int) + 1) = .ok ((path.length : Int) + 1) :=
    MachineInt.result_of_fits ⟨by omega, by omega⟩
  have last : byteAt block ((path.length : Int) - 1) = .ok (path.getLast nonempty) := by
    have place : ((path.length : Int) - 1).toNat = path.length - 1 := by omega
    rw [byteAt, if_neg (by omega), place, parts, List.getElem?_append_left (by omega),
      List.getElem?_eq_getElem (by omega), List.getLast_eq_getElem]
  rw [separate, ofPath]
  simp only [bind, Except.bind, pathlen, index, last, next]
  rw [withSeparator, List.getLast?_eq_getLast_of_ne_nil nonempty]
  by_cases ends : path.getLast nonempty = slash
  · rw [if_neg (not_not_intro ends), if_pos (congrArg _ ends)]
    exact holds
  · rw [if_pos ends, if_neg fun same => ends (Option.some.inj same)]
    have follows : (path.length : Int) + 1 = ((path.length + 1 : Nat) : Int) := rfl
    simp only [follows, setByte_natCast]
    exact extend_outcome holds (by decide) enough

/-- The name of the file is filled in, or the block is too small for it. -/
theorem CaptureSettings.fillIn_outcome (nonempty : path ≠ []) (free : Text.NulFree path)
    (artist : Text.NulFree song.artist) (title : Text.NulFree song.title)
    (sized : block.length = size) (small : size < 2 ^ 31) :
    Outcome (Holds · size (withSeparator path ++ captureName song audioFormat))
      (fun _ => size ≤ path.length + song.artist.length + song.title.length + 8)
      ((ofPath path).fillIn song audioFormat block) := by
  have directory := length_withSeparator path
  have dashLength : (ascii " - ").length = 3 := by decide
  have suffix : Text.NulFree (captureSuffix audioFormat) ∧
      (captureSuffix audioFormat).length = 4 := by
    cases audioFormat <;> decide
  rw [fillIn]
  refine (strcpy_outcome sized free (by omega)).bind fun copied directed => ?_
  refine (separate_outcome nonempty directed small (by omega)).bind fun separated holds => ?_
  simp only [captureNormalizeStrcat_eq]
  refine (strcat_outcome holds (nulFree_normalized artist) ?_).bind fun performed artistHeld => ?_
  · rw [List.length_map]
    omega
  refine (strcat_outcome artistHeld (by decide) ?_).bind fun dashed dashHeld => ?_
  · rw [List.length_append, List.length_map, dashLength]
    omega
  refine (strcat_outcome dashHeld (nulFree_normalized title) ?_).bind fun titled titleHeld => ?_
  · simp only [List.length_append, List.length_map, dashLength]
    omega
  have whole := @strcat_outcome titled _ _ _
    (path.length + song.artist.length + song.title.length + 8) titleHeld suffix.1 (by
      simp only [List.length_append, List.length_map, dashLength, suffix.2]
      omega)
  simpa only [captureName, List.append_assoc] using whole

/-! ## The size of the block -/

private theorem CaptureSettings.captureSize_eq {namelen : Int} (fits : MachineInt.Fits namelen) :
    captureSize namelen = MachineInt.result (namelen + 9) := by
  have lower := fits.1
  have sum : namelen + 4 + (3 : Nat) + (2 : Nat) = namelen + 9 := by omega
  rw [← sum, ← MachineInt.result_add (by omega), ← MachineInt.result_add (by omega), bind_assoc]
  rfl

/-- The lengths are added up as far as an `int` goes. -/
theorem CaptureSettings.captureOpenFile_eq (path : Text) (content : Nat → UInt8)
    (song : PianoSong) (audioFormat : AudioFormat) :
    (ofPath path).captureOpenFile content song audioFormat =
      (MachineInt.result (MachineInt.ofLong
          (path.length + song.artist.length + song.title.length) + 9) >>= fun size =>
        match malloc content (MachineInt.toSize size) with
        | none => .error .nullDereference
        | some fileName => (ofPath path).fillIn song audioFormat fileName) := by
  have lengths : MachineInt.ofLong (MachineInt.toSize (MachineInt.ofLong (MachineInt.toSize
      (MachineInt.ofLong path.length) + song.artist.length)) + song.title.length) =
      MachineInt.ofLong (path.length + song.artist.length + song.title.length) := by
    rw [MachineInt.ofLong_toSize_add path.length, MachineInt.ofLong_toSize_add]
  rw [captureOpenFile, ← captureSize_eq (MachineInt.ofLong_fits _), ← lengths]
  rfl

variable {content : Nat → UInt8}

/-- If the sum of the lengths and nine is an `int`, the name is filled in. -/
theorem CaptureSettings.captureOpenFile_small (nonempty : path ≠ []) (free : Text.NulFree path)
    (artist : Text.NulFree song.artist) (title : Text.NulFree song.title)
    (small : path.length + song.artist.length + song.title.length + 9 < 2 ^ 31) :
    ∃ block, (ofPath path).captureOpenFile content song audioFormat = .ok block ∧
      Holds block (path.length + song.artist.length + song.title.length + 9)
        (withSeparator path ++ captureName song audioFormat) := by
  have outcome (block : Text) (sized : block.length = _) :=
    @fillIn_outcome path block song audioFormat _ nonempty free artist title sized small
  have sum : (path.length + song.artist.length + song.title.length : Int) =
      (path.length + song.artist.length + song.title.length : Nat) := by omega
  rw [captureOpenFile_eq, sum]
  generalize path.length + song.artist.length + song.title.length = length at small outcome
  have namelen : MachineInt.ofLong (length : Int) = length :=
    MachineInt.ofLong_eq ⟨by omega, by omega⟩
  have size : MachineInt.result ((length : Int) + 9) = .ok ((length + 9 : Nat) : Int) :=
    MachineInt.result_of_fits ⟨by omega, by omega⟩
  have bytes : MachineInt.toSize ((length + 9 : Nat) : Int) = length + 9 :=
    Int.ofNat_inj.mp (MachineInt.toSize_of_nonneg (by omega) (by omega))
  have granted : malloc content (length + 9) =
      some ((List.range (length + 9)).map content) := if_pos (by omega)
  have filled := outcome _ (length_of_malloc granted)
  rw [namelen, size]
  simp only [bind, Except.bind, bytes, granted]
  cases result : (ofPath path).fillIn song audioFormat ((List.range (length + 9)).map content) with
  | error undefined =>
      rw [result, outcome_error] at filled
      omega
  | ok block =>
      rw [result] at filled
      exact ⟨block, rfl, filled⟩

/-- If it is not, the program is undefined: the sum overflows, or it is taken for a size that no
block has, or for one that is too small. -/
theorem CaptureSettings.captureOpenFile_large (nonempty : path ≠ []) (free : Text.NulFree path)
    (artist : Text.NulFree song.artist) (title : Text.NulFree song.title)
    (large : 2 ^ 31 ≤ path.length + song.artist.length + song.title.length + 9) :
    ∃ undefined, (ofPath path).captureOpenFile content song audioFormat = .error undefined := by
  have outcome (block : Text) (size : Nat) (sized : block.length = size) (small : size < 2 ^ 31) :=
    @fillIn_outcome path block song audioFormat size nonempty free artist title sized small
  have name : path.length + song.artist.length + song.title.length + 7 ≤
      (withSeparator path ++ captureName song audioFormat).length := by
    have directory := length_withSeparator path
    rw [List.length_append, length_captureName]
    omega
  have sum : (path.length + song.artist.length + song.title.length : Int) =
      (path.length + song.artist.length + song.title.length : Nat) := by omega
  rw [captureOpenFile_eq, sum]
  generalize path.length + song.artist.length + song.title.length = length at large name
  cases allocated : MachineInt.result (MachineInt.ofLong length + 9) with
  | error undefined => exact ⟨undefined, rfl⟩
  | ok size =>
      obtain ⟨fits, same⟩ := MachineInt.result_ok_iff.mp allocated
      rw [← same] at fits
      simp only [bind, Except.bind]
      cases granted : malloc content (MachineInt.toSize size) with
      | none => exact ⟨_, rfl⟩
      | some block =>
          have positive : 0 ≤ size := by
            by_contra negative
            have huge := MachineInt.toSize_of_neg (Int.lt_of_not_ge negative) fits
            rw [malloc, if_neg (Nat.not_lt_of_le huge)] at granted
            cases granted
          have upper := fits.2
          have bytes := MachineInt.toSize_of_nonneg positive (by omega)
          have filled := outcome block _ (length_of_malloc granted) (by omega)
          cases result : (ofPath path).fillIn song audioFormat block with
          | error undefined => exact ⟨undefined, result⟩
          | ok after =>
              rw [result] at filled
              have room := filled.length_lt
              have wrapped : MachineInt.ofLong (length : Int) ≠ length := by omega
              exact absurd (MachineInt.ofLong_eq ⟨by omega, by omega⟩) wrapped

/-! ## Safe names -/

/-- A block holds the name of a file, which is the directory, a separator, and a last component
without special characters. -/
def SafeCapture (block path : Text) : Prop :=
  ∃ last, Holds block block.length (withSeparator path ++ last) ∧
    ∀ byte ∈ last, byte ∉ reservedCharacters

/-- Whatever the new block contains, it holds a safe name just if the lengths of the directory, the
artist and the title and nine are together an `int`. -/
theorem CaptureSettings.captureOpenFile_safe_iff (nonempty : path ≠ []) (free : Text.NulFree path)
    (artist : Text.NulFree song.artist) (title : Text.NulFree song.title)
    (audioFormat : AudioFormat) :
    (∀ content, ∃ block, (ofPath path).captureOpenFile content song audioFormat = .ok block ∧
      SafeCapture block path) ↔
    path.length + song.artist.length + song.title.length + 9 < 2 ^ 31 := by
  constructor
  · intro safe
    by_contra large
    obtain ⟨block, opened, -⟩ := safe fun _ => 0
    obtain ⟨undefined, fails⟩ := @captureOpenFile_large path song audioFormat (fun _ => 0)
      nonempty free artist title (Nat.le_of_not_lt large)
    rw [fails] at opened
    cases opened
  · intro small content
    obtain ⟨block, opened, holds⟩ := @captureOpenFile_small path song audioFormat content
      nonempty free artist title small
    refine ⟨block, opened, captureName song audioFormat, ?_, captureName_not_reserved _ _⟩
    rw [holds.size]
    exact holds

/-- A song of an artist. -/
def songBy (artist title : Text) : PianoSong where
  address := 0
  audioUrl := none
  audioFormat := .mp3
  trackToken := []
  musicId := none
  feedbackId := none
  seedId := none
  artist := artist
  title := title
  album := none
  coverArt := none
  detailUrl := none
  stationId := []
  rating := .none

/-- A song's slashes and question marks do not get into the name of its file. -/
theorem CaptureSettings.captureOpenFile_safe_iff_slash :
    (∃ block, (ofPath (ascii "/c")).captureOpenFile (fun _ => 0)
        (songBy (ascii "A/B") (ascii "T?")) .mp3 = .ok block ∧
      block.cString = ascii "/c/A_B - T!.mp3") ∧
    ∀ content, ∃ block, (ofPath (ascii "/c")).captureOpenFile content
        (songBy (ascii "A/B") (ascii "T?")) .mp3 = .ok block ∧
      SafeCapture block (ascii "/c") :=
  ⟨⟨_, rfl, rfl⟩, (captureOpenFile_safe_iff (by decide) (by decide) (by decide) (by decide)
    .mp3).mpr (by decide)⟩

/-- A name of one letter repeated. -/
def longName (count : Nat) : Text := List.replicate count 120

theorem nulFree_longName (count : Nat) : Text.NulFree (longName count) := by
  intro byte member
  rw [List.eq_of_mem_replicate member]
  decide

private theorem CaptureSettings.captureOpenFile_longName {count : Nat} (many : 2 ^ 31 ≤ count) :
    ∃ undefined, (ofPath (ascii "/c")).captureOpenFile (fun _ => 0) (songBy (longName count) [])
      .mp3 = .error undefined := by
  have length : (longName count).length = count := List.length_replicate
  refine captureOpenFile_large (by decide) (by decide) (nulFree_longName count) nofun ?_
  simp only [songBy, length]
  omega

/-- With an artist's name of almost four gigabytes the size wraps around to nine. -/
theorem CaptureSettings.captureOpenFile_wraps :
    Text.NulFree (longName (2 ^ 32 - 2)) ∧
    ¬∃ block, (ofPath (ascii "/c")).captureOpenFile (fun _ => 0)
        (songBy (longName (2 ^ 32 - 2)) []) .mp3 = .ok block ∧
      SafeCapture block (ascii "/c") := by
  refine ⟨nulFree_longName _, ?_⟩
  rintro ⟨block, opened, -⟩
  obtain ⟨undefined, fails⟩ := @captureOpenFile_longName (2 ^ 32 - 2) (by omega)
  rw [fails] at opened
  cases opened

end Pianod
