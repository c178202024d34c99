import Pianod.Football.ArgvBuffer

/-!
# The array for the terms

The words of a command line are counted, and an array is allocated with a half for the terms and a
half for the remainders of the line, each of which is to end in a null.  Then the copy of the line
is split, which finds the terms: quotes take several words together.
-/

namespace Football

open Foundation Foundation.Buffer

/-- What an element of the array points into: the copy of the line, or the line itself. -/
inductive ArgvPointer where
  | command (place : Nat)
  | commandline (place : Nat)
deriving DecidableEq, Repr

/-- The copy of a line that is being split, the array for its terms, the place in the array where
the half for the remainders starts, and the number of terms stored. -/
structure ArgvArray where
  command : Text
  slots : List (Option ArgvPointer)
  argr : Nat
  wordcount : Nat
deriving DecidableEq, Repr

namespace ArgvArray

/-- Store a pointer in an element of the array. -/
def store (slots : List (Option ArgvPointer)) (slot : Nat) (pointer : ArgvPointer) :
    Except Fault (List (Option ArgvPointer)) :=
  if slot < slots.length then .ok (slots.set slot (some pointer)) else .error .outOfBounds

/-- Store the pointers for a term, in both halves. -/
def storeTerm (array : ArgvArray) (c : Nat) : Except Fault ArgvArray := do
  let slots ← store array.slots array.wordcount (.command c)
  let slots ← store slots (array.argr + array.wordcount) (.commandline c)
  let wordcount ← MachineInt.counted (array.wordcount + 1)
  return { array with slots := slots, wordcount := wordcount }

/-- Split off the term at a place; the result is the place where it ends. -/
def cutTerm (array : ArgvArray) (c : Nat) : Except Fault (ArgvArray × Nat) := do
  let array ← array.storeTerm c
  if byteAt array.command c = quote then
    let ending := c + 1 + ArgvVector.quotedLength (array.command.drop (c + 1))
    if array.wordcount = 1 then
      let shifted := memmove array.command c (c + 1) (ending - c)
      return ({ array with command := shifted.set (ending - 1) 0 }, ending)
    else
      let slots ← store array.slots (array.wordcount - 1) (.command (c + 1))
      return ({ array with slots := slots }, ending)
  else
    return (array, skipWhile (fun byte => byte != 0 && !isspace byte) array.command c)

/-- Terminate the term that ends at a place, and skip the whitespace after it. -/
def terminate (array : ArgvArray) (c : Nat) : ArgvArray × Nat :=
  if byteAt array.command c ≠ 0 then
    let command := array.command.set c 0
    ({ array with command := command }, skipWhile isspace command (c + 1))
  else (array, skipWhile isspace array.command c)

/-- Split off terms until the copy ends. -/
def cutTerms : Nat → ArgvArray → Nat → Except Fault ArgvArray
  | 0, array, _ => .ok array
  | fuel + 1, array, c =>
      if byteAt array.command c = 0 then .ok array
      else
        match array.cutTerm c with
        | .error fault => .error fault
        | .ok cut =>
            let ended := cut.1.terminate cut.2
            cutTerms fuel ended.1 ended.2

/-- The assertion that an element of the array is null. -/
def assertNull (array : ArgvArray) (slot : Nat) (expression : String) : Except Fault Unit :=
  match array.slots[slot]? with
  | none => .error .outOfBounds
  | some none => .ok ()
  | some (some _) => .error (.assertion expression)

/-- Split a command line into an array, unless there is no memory for it. -/
def fbCreateArgv (memory : ArgvMemory) (commandline : Text) :
    Except Fault (Option ArgvArray) := do
  let commandline := commandline.dropWhile isspace
  if !memory.strdup then return none
  let command := commandline ++ [0]
  let wordcount ← countTerms commandline.length 0 commandline
  let size ← MachineInt.counted (wordcount + 1)
  let size ← MachineInt.counted (size * 2)
  if !memory.calloc then return none
  let array ← cutTerms command.length ⟨command, List.replicate size none, wordcount + 1, 0⟩ 0
  array.assertNull array.wordcount "argv [wordcount] == NULL"
  array.assertNull (array.argr + array.wordcount) "argr [wordcount] == NULL"
  -- Without terms nothing points into the copy, and it is released.
  return some (if array.wordcount = 0 then { array with command := [] } else array)

/-- The string that an element of the array points to. -/
def pointed (array : ArgvArray) (commandline : Text) : Option ArgvPointer → Option Text
  | none => none
  | some (.command place) => some (stringAt array.command place)
  | some (.commandline place) => some ((commandline.dropWhile isspace).drop place)

/-- The terms of an array as strings. -/
def terms (array : ArgvArray) (commandline : Text) : List (Option Text) :=
  (array.slots.take array.wordcount).map (array.pointed commandline)

/-- The remainders of the line in an array as strings. -/
def remainders (array : ArgvArray) (commandline : Text) : List (Option Text) :=
  ((array.slots.drop array.argr).take array.wordcount).map (array.pointed commandline)

/-! ## Counting -/

/-- The words are counted unless there are too many of them for an `int`. -/
theorem countTerms_eq (fuel : Nat) {start : Nat} (small : start < 2 ^ 31) (text : Text) :
    countTerms fuel start text =
      if start + countWords fuel text < 2 ^ 31 then .ok (start + countWords fuel text)
      else .error .signedOverflow := by
  induction fuel generalizing start text with
  | zero => rw [countTerms, countWords, Nat.add_zero, if_pos small]
  | succ fuel ih =>
      cases text with
      | nil => exact (if_pos small).symm
      | cons byte text =>
          rw [countTerms, if_neg (List.cons_ne_nil byte text)]
          have words : countWords (fuel + 1) (byte :: text) = 1 + countWords fuel
              (((byte :: text).dropWhile fun byte => !isspace byte).dropWhile isspace) := by
            rw [countWords]
            exact List.cons_ne_nil _ _
          rw [words, ← Nat.add_assoc]
          by_cases next : start + 1 < 2 ^ 31
          · rw [MachineInt.counted_of_lt next]
            exact ih next _
          · rw [MachineInt.counted_of_le (Nat.le_of_not_lt next), if_neg (by omega)]

/-! ## The halves -/

/-- A half of the array: pointers to places, and nulls after them. -/
def half (pointer : Nat → ArgvPointer) (size : Nat) (places : List Nat) :
    List (Option ArgvPointer) :=
  places.map (fun place => some (pointer place)) ++ List.replicate (size - places.length) none

variable {pointer : Nat → ArgvPointer} {size : Nat} {places : List Nat}

theorem length_half (room : places.length ≤ size) : (half pointer size places).length = size := by
  rw [half, List.length_append, List.length_map, List.length_replicate, Nat.add_sub_cancel' room]

theorem half_next (room : places.length < size) : ∃ nulls,
    half pointer size places = places.map (fun place => some (pointer place)) ++ none :: nulls ∧
    ∀ place, half pointer size (places ++ [place]) =
      places.map (fun place => some (pointer place)) ++ some (pointer place) :: nulls := by
  refine ⟨List.replicate (size - places.length - 1) none, ?_, fun place => ?_⟩
  · rw [half, ← List.replicate_succ, Nat.sub_add_cancel (Nat.sub_pos_of_lt room)]
  · rw [half, List.map_append, List.length_append, List.append_assoc, Nat.sub_sub]
    rfl

theorem getElem?_half {index : Nat} (stored : index < places.length) :
    ∃ place ∈ places, (half pointer size places)[index]? = some (some (pointer place)) := by
  refine ⟨places[index], List.getElem_mem stored, ?_⟩
  rw [half, List.getElem?_append_left (by rwa [List.length_map]), List.getElem?_map,
    List.getElem?_eq_getElem stored]
  rfl

theorem getElem?_half_null {index : Nat} (after : places.length ≤ index) (inside : index < size) :
    (half pointer size places)[index]? = some none := by
  rw [half, List.getElem?_append_right (by rwa [List.length_map]), List.length_map,
    List.getElem?_replicate, if_pos (by omega)]

/-- A pointer is stored in a half. -/
theorem store_half (room : places.length < size) (front back : List (Option ArgvPointer))
    (place : Nat) :
    store (front ++ (half pointer size places ++ back)) (front.length + places.length)
        (pointer place) =
      .ok (front ++ (half pointer size (places ++ [place]) ++ back)) := by
  obtain ⟨nulls, before, after⟩ := @half_next pointer size places room
  have inside : front.length + places.length <
      (front ++ (half pointer size places ++ back)).length := by
    rw [List.length_append, List.length_append, length_half room.le]
    omega
  rw [store, if_pos inside, before, after]
  simp

private theorem store_last (room : places.length < size) (back : List (Option ArgvPointer))
    (place other : Nat) :
    store (half pointer size (places ++ [place]) ++ back) places.length (pointer other) =
      .ok (half pointer size (places ++ [other]) ++ back) := by
  obtain ⟨nulls, -, after⟩ := @half_next pointer size places room
  have inside : places.length < (half pointer size (places ++ [place]) ++ back).length := by
    rw [List.length_append, length_half (by simp; omega)]
    omega
  rw [store, if_pos inside, after, after]
  simp

/-! ## The array for a vector -/

/-- The array holds what a vector lists, each list in its half. -/
structure Represents (array : ArgvArray) (vector : ArgvVector) : Prop where
  command : array.command = vector.command
  slots : array.slots =
    half .command array.argr vector.argv ++ half .commandline array.argr vector.argr
  argv : vector.argv.length = array.wordcount
  argr : vector.argr.length = array.wordcount

variable {array : ArgvArray} {vector : ArgvVector} {c : Nat}

/-- Where there is room, a term is stored. -/
theorem Represents.storeTerm (represents : array.Represents vector)
    (room : array.wordcount < array.argr) (small : array.wordcount + 1 < 2 ^ 31) (c : Nat) :
    ∃ after, array.storeTerm c = .ok after ∧ after.argr = array.argr ∧
      after.Represents ⟨vector.command, vector.argv ++ [c], vector.argr ++ [c]⟩ := by
  have argv : vector.argv.length < array.argr := represents.argv ▸ room
  have argr : vector.argr.length < array.argr := represents.argr ▸ room
  have first : store array.slots array.wordcount (.command c) =
      .ok (half .command array.argr (vector.argv ++ [c]) ++
        half .commandline array.argr vector.argr) := by
    rw [represents.slots, ← represents.argv]
    simpa using store_half argv [] (half .commandline array.argr vector.argr) c
  have second : store (half .command array.argr (vector.argv ++ [c]) ++
        half .commandline array.argr vector.argr) (array.argr + array.wordcount) (.commandline c) =
      .ok (half .command array.argr (vector.argv ++ [c]) ++
        half .commandline array.argr (vector.argr ++ [c])) := by
    have stored := @store_half .commandline array.argr vector.argr argr
      (half .command array.argr (vector.argv ++ [c])) [] c
    rw [length_half (by simp; omega), represents.argr] at stored
    simpa using stored
  refine ⟨⟨array.command, half .command array.argr (vector.argv ++ [c]) ++
    half .commandline array.argr (vector.argr ++ [c]), array.argr, array.wordcount + 1⟩, ?_, rfl,
    represents.command, rfl, ?_, ?_⟩
  · simp only [ArgvArray.storeTerm, bind, Except.bind, first, second,
      MachineInt.counted_of_lt small]
    rfl
  · simp [represents.argv]
  · simp [represents.argr]

/-- Where there is room, a term is split off as from the vector. -/
theorem Represents.cutTerm (represents : array.Represents vector)
    (room : array.wordcount < array.argr) (small : array.wordcount + 1 < 2 ^ 31) (c : Nat) :
    ∃ after, array.cutTerm c = .ok (after, (vector.cutTerm c).2) ∧ after.argr = array.argr ∧
      after.Represents (vector.cutTerm c).1 := by
  obtain ⟨stored, stores, same, holds⟩ := represents.storeTerm room small c
  have argv : vector.argv.length < array.argr := represents.argv ▸ room
  have command : stored.command = vector.command := holds.command
  have count : (vector.argv ++ [c]).length = stored.wordcount := holds.argv
  rw [ArgvArray.cutTerm, stores, ArgvVector.cutTerm]
  simp only [bind, Except.bind, pure, Except.pure, command, count]
  split
  · split
    · exact ⟨_, rfl, same, rfl, holds.slots, holds.argv, holds.argr⟩
    · have last := @store_last .command array.argr vector.argv argv
        (half .commandline array.argr (vector.argr ++ [c])) c (c + 1)
      have slots := holds.slots
      rw [same] at slots
      have earlier : stored.wordcount - 1 = vector.argv.length := by
        rw [← count, List.length_append]
        rfl
      rw [slots, earlier, last]
      refine ⟨_, rfl, same, rfl, ?_, ?_, holds.argr⟩
      · simp [same]
      · simp [← count]
  · exact ⟨_, rfl, same, command, holds.slots, holds.argv, holds.argr⟩

/-- A term is terminated as in the vector. -/
theorem Represents.terminate (represents : array.Represents vector) (c : Nat) :
    (array.terminate c).2 = (vector.terminate c).2 ∧
      (array.terminate c).1.argr = array.argr ∧
      (array.terminate c).1.Represents (vector.terminate c).1 := by
  rw [ArgvArray.terminate, ArgvVector.terminate, represents.command]
  split
  · exact ⟨rfl, rfl, rfl, represents.slots, represents.argv, represents.argr⟩
  · exact ⟨rfl, rfl, represents⟩

/-- If there is room for the terms that the vector will list, all of them are stored. -/
theorem Represents.cutTerms {fuel : Nat} (represents : array.Represents vector)
    (room : (ArgvVector.cutTerms fuel vector c).argv.length < array.argr)
    (small : array.argr < 2 ^ 31) :
    ∃ after, array.cutTerms fuel c = .ok after ∧ after.argr = array.argr ∧
      after.Represents (ArgvVector.cutTerms fuel vector c) := by
  induction fuel generalizing array vector c with
  | zero => exact ⟨array, rfl, rfl, represents⟩
  | succ fuel ih =>
      rw [ArgvVector.cutTerms] at room ⊢
      rw [ArgvArray.cutTerms, represents.command]
      split
      · exact ⟨array, rfl, rfl, represents⟩
      · rename_i more
        rw [if_neg more] at room
        dsimp only at room
        have later := ArgvVector.length_cutTerms_argv fuel
          ((vector.cutTerm c).1.terminate (vector.cutTerm c).2).1
          ((vector.cutTerm c).1.terminate (vector.cutTerm c).2).2
        rw [ArgvVector.terminate_argv, ArgvVector.length_cutTerm_argv, represents.argv] at later
        obtain ⟨cut, cuts, size, holds⟩ := represents.cutTerm (by omega) (by omega) c
        obtain ⟨ending, sized, ended⟩ := holds.terminate (vector.cutTerm c).2
        rw [cuts]
        dsimp only
        rw [ending]
        obtain ⟨after, stored, same, final⟩ := ih ended
          (by rw [sized, size]; exact room) (by rw [sized, size]; exact small)
        exact ⟨after, stored, by rw [same, sized, size], final⟩

/-! ## The whole array -/

/-- The array of a command line is as large as its words require.  It has no more terms than there
are words, each of them a string in the copy of the line, and as many remainders, each half its own;
behind them each half has nulls only, one at least. -/
structure Sound (array : ArgvArray) (commandline : Text) : Prop where
  size : array.argr = ArgvVector.wordStarts true commandline + 1 ∧
    array.slots.length = array.argr + array.argr
  counted : array.wordcount ≤ ArgvVector.wordStarts true commandline
  copied : 0 < array.wordcount →
    array.command.length = (commandline.dropWhile isspace).length + 1
  argv : ∀ index < array.wordcount, ∃ place,
    array.slots[index]? = some (some (.command place)) ∧ 0 ∈ array.command.drop place
  argr : ∀ index < array.wordcount, ∃ place,
    array.slots[array.argr + index]? = some (some (.commandline place))
  nulls : ∀ index, array.wordcount ≤ index → index < array.argr →
    array.slots[index]? = some none ∧ array.slots[array.argr + index]? = some none

/-- The elements of both halves, while there is room in them. -/
theorem Represents.getElem? (represents : array.Represents vector)
    (room : array.wordcount ≤ array.argr) {index : Nat} (inside : index < array.argr) :
    array.slots[index]? = (half .command array.argr vector.argv)[index]? ∧
      array.slots[array.argr + index]? = (half .commandline array.argr vector.argr)[index]? := by
  have length := @length_half .command array.argr vector.argv (represents.argv ▸ room)
  rw [represents.slots]
  constructor
  · exact List.getElem?_append_left (by rwa [length])
  · rw [List.getElem?_append_right (by rw [length]; exact Nat.le_add_right _ _), length,
      Nat.add_sub_cancel_left]

theorem Represents.nulls (represents : array.Represents vector)
    (room : array.wordcount ≤ array.argr) {index : Nat} (after : array.wordcount ≤ index)
    (inside : index < array.argr) :
    array.slots[index]? = some none ∧ array.slots[array.argr + index]? = some none := by
  obtain ⟨first, second⟩ := represents.getElem? room inside
  rw [first, second]
  exact ⟨getElem?_half_null (represents.argv ▸ after) inside,
    getElem?_half_null (represents.argr ▸ after) inside⟩

/-- The array for the terms of a line is sound. -/
theorem Represents.sound {commandline : Text} (free : Text.NulFree commandline)
    (represents : array.Represents (ArgvVector.secondPass commandline))
    (size : array.argr = ArgvVector.wordStarts true commandline + 1) :
    array.Sound commandline := by
  obtain ⟨ending, front, progress, within⟩ := ArgvVector.secondPass_progress free
  have room := ArgvVector.length_argv_secondPass free
  rw [represents.argv] at room
  have fits : array.wordcount ≤ array.argr := by omega
  refine ⟨⟨size, ?_⟩, room, fun _ => ?_, fun index stored => ?_, fun index stored => ?_,
    fun index => represents.nulls fits⟩
  · rw [represents.slots, List.length_append, length_half (represents.argv ▸ fits),
      length_half (represents.argr ▸ fits)]
  · rw [represents.command, within.length]
  · obtain ⟨place, member, there⟩ := @getElem?_half .command array.argr
      (ArgvVector.secondPass commandline).argv index (by rwa [represents.argv])
    refine ⟨place, (represents.getElem? fits (by omega)).1.trans there, ?_⟩
    have reached := within.places place member
    rw [progress.place] at reached
    rw [represents.command, progress.command, List.append_nil,
      List.drop_append_of_le_length reached]
    exact List.mem_append_right _ List.mem_cons_self
  · obtain ⟨place, -, there⟩ := @getElem?_half .commandline array.argr
      (ArgvVector.secondPass commandline).argr index (by rwa [represents.argr])
    exact ⟨place, (represents.getElem? fits (by omega)).2.trans there⟩

/-- Without terms the copy is not used. -/
theorem Sound.released {commandline : Text} (sound : array.Sound commandline)
    (blank : array.wordcount = 0) : Sound { array with command := [] } commandline := by
  refine ⟨sound.size, sound.counted, fun some => ?_, fun index some => ?_, sound.argr, sound.nulls⟩
  · exact absurd blank some.ne'
  · exact absurd (blank ▸ some) (Nat.not_lt_zero index)

/-! ## Whole lines -/

/-- The words that are counted. -/
theorem countTerms_line (commandline : Text) :
    countTerms (commandline.dropWhile isspace).length 0 (commandline.dropWhile isspace) =
      if ArgvVector.wordStarts true commandline < 2 ^ 31 then
        .ok (ArgvVector.wordStarts true commandline)
      else .error .signedOverflow := by
  have words := ArgvVector.countWords_eq (Nat.le_refl (commandline.dropWhile isspace).length)
    (List.dropWhile_idempotent _ _)
  rw [ArgvVector.wordStarts_dropWhile_space] at words
  rw [countTerms_eq _ (by decide), Nat.zero_add, words]

/-- The terms of a line are those of the vector, if its words can be counted twice. -/
theorem fbCreateArgv_represents {commandline : Text} (free : Text.NulFree commandline)
    (few : ArgvVector.wordStarts true commandline + 1 < 2 ^ 30) :
    ∃ array : ArgvArray, array.Represents (ArgvVector.secondPass commandline) ∧
      array.argr = ArgvVector.wordStarts true commandline + 1 ∧
      fbCreateArgv ⟨true, true⟩ commandline =
        .ok (some (if array.wordcount = 0 then { array with command := [] } else array)) := by
  have room := ArgvVector.length_argv_secondPass free
  have count := countTerms_line commandline
  rw [if_pos (by omega)] at count
  generalize ArgvVector.wordStarts true commandline = words at few room count ⊢
  have fresh : Represents
      ⟨commandline.dropWhile isspace ++ [0], List.replicate ((words + 1) * 2) none, words + 1, 0⟩
      ⟨commandline.dropWhile isspace ++ [0], [], []⟩ := by
    refine ⟨rfl, ?_, rfl, rfl⟩
    rw [Nat.mul_two, ← List.replicate_append_replicate]
    rfl
  have fills : (ArgvVector.cutTerms (commandline.dropWhile isspace ++ [0]).length
      ⟨commandline.dropWhile isspace ++ [0], [], []⟩ 0).argv.length < words + 1 :=
    Nat.lt_succ_of_le room
  obtain ⟨array, stored, size, represents⟩ :=
    fresh.cutTerms fills (show words + 1 < 2 ^ 31 by omega)
  have counted := represents.argv
  have fits : array.wordcount < array.argr := by
    rw [← counted, size]
    exact Nat.lt_succ_of_le room
  obtain ⟨first, second⟩ := represents.nulls fits.le (Nat.le_refl _) fits
  refine ⟨array, represents, size, ?_⟩
  simp only [fbCreateArgv, bind, Except.bind, count, stored, assertNull, first, second,
    MachineInt.counted_of_lt (show words + 1 < 2 ^ 31 by omega),
    MachineInt.counted_of_lt (show (words + 1) * 2 < 2 ^ 31 by omega)]
  rfl

theorem fbCreateArgv_refused {commandline : Text}
    (few : ArgvVector.wordStarts true commandline + 1 < 2 ^ 30) :
    fbCreateArgv ⟨true, false⟩ commandline = .ok none := by
  have count := countTerms_line commandline
  rw [if_pos (by omega)] at count
  generalize ArgvVector.wordStarts true commandline = words at few count
  simp only [fbCreateArgv, bind, Except.bind, count,
    MachineInt.counted_of_lt (show words + 1 < 2 ^ 31 by omega),
    MachineInt.counted_of_lt (show (words + 1) * 2 < 2 ^ 31 by omega)]
  rfl

/-- Too many words overflow the size of the array. -/
theorem fbCreateArgv_overflow {commandline : Text} (calloc : Bool)
    (many : 2 ^ 30 ≤ ArgvVector.wordStarts true commandline + 1) :
    fbCreateArgv ⟨true, calloc⟩ commandline = .error .signedOverflow := by
  have count := countTerms_line commandline
  generalize ArgvVector.wordStarts true commandline = words at many count
  by_cases counts : words < 2 ^ 31
  · rw [if_pos counts] at count
    by_cases next : words + 1 < 2 ^ 31
    · simp only [fbCreateArgv, bind, Except.bind, count, MachineInt.counted_of_lt next,
        MachineInt.counted_of_le (show 2 ^ 31 ≤ (words + 1) * 2 by omega)]
      rfl
    · simp only [fbCreateArgv, bind, Except.bind, count,
        MachineInt.counted_of_le (Nat.le_of_not_lt next)]
      rfl
  · rw [if_neg counts] at count
    simp only [fbCreateArgv, bind, Except.bind, count]
    rfl

/-! ## The terms of a line -/

/-- The terms and the remainders in an array are those of its vector. -/
theorem Represents.terms (represents : array.Represents vector)
    (room : array.wordcount ≤ array.argr) (commandline : Text) :
    array.terms commandline = vector.terms.map some ∧
      array.remainders commandline = (vector.remainders commandline).map some := by
  have argv := @length_half .command array.argr vector.argv (represents.argv ▸ room)
  constructor
  · rw [ArgvArray.terms, represents.slots, half, List.append_assoc,
      List.take_left' (by rw [List.length_map, represents.argv]), List.map_map,
      ArgvVector.terms, List.map_map, ← represents.command]
    rfl
  · rw [ArgvArray.remainders, represents.slots, List.drop_left' argv, half,
      List.take_left' (by rw [List.length_map, represents.argr]), List.map_map,
      ArgvVector.remainders, List.map_map]
    rfl

theorem createArgv_few {commandline : Text} (few : ArgvVector.FewWords commandline)
    (memory : ArgvMemory) :
    createArgv memory commandline =
      .ok (if memory.strdup && memory.calloc then some (commandTerms commandline) else none) := by
  have count := countTerms_line commandline
  rw [ArgvVector.FewWords] at few
  rw [if_pos (by omega)] at count
  generalize ArgvVector.wordStarts true commandline = words at few count
  rcases memory with ⟨_ | _, calloc⟩
  · rfl
  · simp only [createArgv, bind, Except.bind, count,
      MachineInt.counted_of_lt (show words + 1 < 2 ^ 31 by omega),
      MachineInt.counted_of_lt (show (words + 1) * 2 < 2 ^ 31 by omega)]
    cases calloc <;> rfl

theorem createArgv_many {commandline : Text} (many : ¬ArgvVector.FewWords commandline)
    (calloc : Bool) : createArgv ⟨true, calloc⟩ commandline = .error .signedOverflow := by
  have count := countTerms_line commandline
  rw [ArgvVector.FewWords] at many
  generalize ArgvVector.wordStarts true commandline = words at many count
  by_cases counts : words < 2 ^ 31
  · rw [if_pos counts] at count
    by_cases next : words + 1 < 2 ^ 31
    · simp only [createArgv, bind, Except.bind, count, MachineInt.counted_of_lt next,
        MachineInt.counted_of_le (show 2 ^ 31 ≤ (words + 1) * 2 by omega)]
      rfl
    · simp only [createArgv, bind, Except.bind, count,
        MachineInt.counted_of_le (Nat.le_of_not_lt next)]
      rfl
  · rw [if_neg counts] at count
    simp only [createArgv, bind, Except.bind, count]
    rfl

/-- The array of a line that is split holds its terms, unless there is no memory for it. -/
theorem fbCreateArgv_terms {commandline : Text} (free : Text.NulFree commandline)
    (few : ArgvVector.FewWords commandline) (memory : ArgvMemory) :
    ∃ created, fbCreateArgv memory commandline = .ok created ∧
      created.isSome = (memory.strdup && memory.calloc) ∧
      ∀ array ∈ created,
        array.terms commandline = (commandTerms commandline).map (some ∘ Term.word) ∧
        array.remainders commandline = (commandTerms commandline).map (some ∘ Term.remainder) := by
  rcases memory with ⟨_ | _, _ | _⟩
  · exact ⟨none, rfl, rfl, nofun⟩
  · exact ⟨none, rfl, rfl, nofun⟩
  · exact ⟨none, fbCreateArgv_refused few, rfl, nofun⟩
  · obtain ⟨array, represents, size, creates⟩ := fbCreateArgv_represents free few
    refine ⟨_, creates, rfl, fun created same => ?_⟩
    obtain rfl := Option.some.inj same
    have room := ArgvVector.length_argv_secondPass free
    rw [represents.argv] at room
    obtain ⟨words, remainders⟩ := ArgvVector.secondPass_eq free
    have held := represents.terms (by omega) commandline
    rw [words, remainders, List.map_map, List.map_map] at held
    split
    · rename_i blank
      rw [ArgvArray.terms, ArgvArray.remainders, blank] at held
      rw [ArgvArray.terms, ArgvArray.remainders, blank]
      exact held
    · exact held

/-- Whatever the line and however the allocations go, the array has the terms of the line. -/
theorem fbCreateArgv_createArgv {commandline : Text} (free : Text.NulFree commandline)
    (memory : ArgvMemory) :
    (fbCreateArgv memory commandline).map (Option.map fun array =>
        (array.terms commandline, array.remainders commandline)) =
      (createArgv memory commandline).map (Option.map fun terms =>
        (terms.map (some ∘ Term.word), terms.map (some ∘ Term.remainder))) := by
  by_cases few : ArgvVector.FewWords commandline
  · obtain ⟨created, creates, memories, holds⟩ := fbCreateArgv_terms free few memory
    rw [creates, createArgv_few few, ← memories]
    cases created with
    | none => rfl
    | some array =>
        obtain ⟨words, remainders⟩ := holds array rfl
        simp only [Except.map, Option.map_some, Option.isSome_some, if_true, words, remainders]
  · rcases memory with ⟨_ | _, calloc⟩
    · rfl
    · rw [fbCreateArgv_overflow calloc (Nat.le_of_not_lt few), createArgv_many few]
      rfl

/-- However the allocations go, the array of a line is sound just if twice the number of its words,
and two for the nulls, is an `int`. -/
theorem fbCreateArgv_sound_iff {commandline : Text} (free : Text.NulFree commandline) :
    (∀ memory, ∃ created, fbCreateArgv memory commandline = .ok created ∧
      ∀ array ∈ created, array.Sound commandline) ↔
    ArgvVector.wordStarts true commandline + 1 < 2 ^ 30 := by
  constructor
  · intro sound
    by_contra many
    obtain ⟨created, creates, -⟩ := sound ⟨true, true⟩
    rw [fbCreateArgv_overflow true (Nat.le_of_not_lt many)] at creates
    cases creates
  · rintro few ⟨strdup, calloc⟩
    cases strdup with
    | false => exact ⟨none, rfl, nofun⟩
    | true =>
        cases calloc with
        | false => exact ⟨none, fbCreateArgv_refused few, nofun⟩
        | true =>
            obtain ⟨array, represents, size, creates⟩ := fbCreateArgv_represents free few
            refine ⟨_, creates, fun created same => ?_⟩
            obtain rfl := Option.some.inj same
            have sound := represents.sound free size
            split
            · rename_i blank
              exact sound.released blank
            · exact sound

/-- A term of three words leaves some of its half unused. -/
theorem fbCreateArgv_sound_iff_quoted :
    (∃ array, fbCreateArgv ⟨true, true⟩ (ascii "\"a b c\"") = .ok (some array) ∧
      array.wordcount = 1 ∧ array.argr = 4) ∧
    ∀ memory, ∃ created, fbCreateArgv memory (ascii "\"a b c\"") = .ok created ∧
      ∀ array ∈ created, array.Sound (ascii "\"a b c\"") :=
  ⟨⟨_, rfl, rfl, rfl⟩, (fbCreateArgv_sound_iff (by decide)).mpr (by decide)⟩

/-- A line of words of one letter. -/
def letters (count : Nat) : Text := (List.replicate count (ascii "x ")).flatten

theorem nulFree_letters (count : Nat) : Text.NulFree (letters count) := by
  intro byte member
  obtain ⟨word, words, inside⟩ := List.mem_flatten.mp member
  rw [List.eq_of_mem_replicate words] at inside
  exact (show Text.NulFree (ascii "x ") by decide) byte inside

theorem wordStarts_letters (count : Nat) : ArgvVector.wordStarts true (letters count) = count := by
  induction count with
  | zero => rfl
  | succ count ih =>
      rw [letters, List.replicate_succ, List.flatten_cons]
      show 1 + ArgvVector.wordStarts true (letters count) = count + 1
      rw [ih, Nat.add_comm]

/-- For a line of as many words as an `int` can count, the size of the array overflows. -/
theorem fbCreateArgv_letters :
    Text.NulFree (letters (2 ^ 31 - 1)) ∧
    fbCreateArgv ⟨true, true⟩ (letters (2 ^ 31 - 1)) = .error .signedOverflow ∧
    ¬∃ created, fbCreateArgv ⟨true, true⟩ (letters (2 ^ 31 - 1)) = .ok created ∧
      ∀ array ∈ created, array.Sound (letters (2 ^ 31 - 1)) := by
  have overflows := @fbCreateArgv_overflow (letters (2 ^ 31 - 1)) true (by
    rw [wordStarts_letters]
    omega)
  refine ⟨nulFree_letters _, overflows, ?_⟩
  rintro ⟨created, creates, -⟩
  rw [overflows] at creates
  cases creates

end ArgvArray

end Football
