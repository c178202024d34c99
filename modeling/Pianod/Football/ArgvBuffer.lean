import Pianod.Football.Argv
import Pianod.Foundation.Buffer
import Mathlib.Data.List.DropRight

/-!
# Splitting a command line in place

A copy of the command line is cut into strings by writing NULs over the bytes after the terms.  The
copy is released through the first term's address, so the first term must start where the copy does:
when it is quoted, its text is shifted down over the quote.
-/

namespace Football

open Foundation Foundation.Buffer

/-- A copy of a command line that is being split, the places of its terms there, and those of the
terms in the line itself. -/
structure ArgvVector where
  command : Text
  argv : List Nat
  argr : List Nat
deriving DecidableEq, Repr

namespace ArgvVector

/-- The inside of a quoted term, with the NUL of the buffer after it. -/
def quotedLength : Text → Nat
  | [] => 0
  | byte :: text =>
      if byte = 0 then 0
      else if byte = quote ∧ (isspace (byteAt text 0) = true ∨ byteAt text 0 = 0) then 0
      else quotedLength text + 1

/-- Split off the term at a place; the result is the place where it ends. -/
def cutTerm (vector : ArgvVector) (c : Nat) : ArgvVector × Nat :=
  let argv := vector.argv ++ [c]
  let argr := vector.argr ++ [c]
  if byteAt vector.command c = quote then
    let ending := c + 1 + quotedLength (vector.command.drop (c + 1))
    if argv.length = 1 then
      -- The first term is the address of the copy: its text is shifted instead.
      (⟨(memmove vector.command c (c + 1) (ending - c)).set (ending - 1) 0, argv, argr⟩, ending)
    else (⟨vector.command, vector.argv ++ [c + 1], argr⟩, ending)
  else
    (⟨vector.command, argv, argr⟩,
      skipWhile (fun byte => byte != 0 && !isspace byte) vector.command c)

/-- Terminate the term that ends at a place, and skip the whitespace after it. -/
def terminate (vector : ArgvVector) (c : Nat) : ArgvVector × Nat :=
  if byteAt vector.command c ≠ 0 then
    let command := vector.command.set c 0
    ({ vector with command := command }, skipWhile isspace command (c + 1))
  else (vector, skipWhile isspace vector.command c)

/-- Split off terms until the copy ends. -/
def cutTerms : Nat → ArgvVector → Nat → ArgvVector
  | 0, vector, _ => vector
  | fuel + 1, vector, c =>
      if byteAt vector.command c = 0 then vector
      else
        let cut := vector.cutTerm c
        let ended := cut.1.terminate cut.2
        cutTerms fuel ended.1 ended.2

/-- The second pass over a command line, with room for any number of terms. -/
def secondPass (commandline : Text) : ArgvVector :=
  let command := commandline.dropWhile isspace ++ [0]
  cutTerms command.length ⟨command, [], []⟩ 0

/-- The terms as strings. -/
def terms (vector : ArgvVector) : List Text := vector.argv.map (stringAt vector.command)

/-- The remainders of a command line from its terms on. -/
def remainders (vector : ArgvVector) (commandline : Text) : List Text :=
  vector.argr.map fun place => (commandline.dropWhile isspace).drop place

end ArgvVector

/-- The number of words between whitespace, for which room is made. -/
def countWords : Nat → Text → Nat
  | 0, _ => 0
  | _, [] => 0
  | fuel + 1, text =>
      1 + countWords fuel ((text.dropWhile fun byte => !isspace byte).dropWhile isspace)

/-! ## One term -/

/-- The word that a line starts with, and what follows it. -/
def firstTerm : Text → Text × Text
  | [] => ([], [])
  | byte :: text => if byte == quote then quotedTerm text else plainTerm (byte :: text)

theorem splitTerms_cons (fuel : Nat) (byte : UInt8) (text : Text) :
    splitTerms (fuel + 1) (byte :: text) =
      ⟨(firstTerm (byte :: text)).1, byte :: text⟩ ::
        splitTerms fuel ((firstTerm (byte :: text)).2.dropWhile isspace) := rfl

/-- A quoted term ends with its line, or its closing quote follows. -/
theorem quotedTerm_eq (text : Text) :
    (quotedTerm text).1 = text ∧ (quotedTerm text).2 = [] ∨
      text = (quotedTerm text).1 ++ quote :: (quotedTerm text).2 ∧
        endsWord (quotedTerm text).2 = true := by
  induction text with
  | nil => exact .inl ⟨rfl, rfl⟩
  | cons byte text ih =>
      rw [quotedTerm]
      split
      · rename_i closes
        obtain ⟨same, ends⟩ := Bool.and_eq_true_iff.mp closes
        exact .inr ⟨congrArg (· :: text) (beq_iff_eq.mp same), ends⟩
      · rcases ih with ⟨whole, nothing⟩ | ⟨closed, ends⟩
        · exact .inl ⟨congrArg (byte :: ·) whole, nothing⟩
        · exact .inr ⟨congrArg (byte :: ·) closed, ends⟩

private theorem quotedLength_eq {text : Text} (free : Text.NulFree text) :
    ArgvVector.quotedLength (text ++ [0]) = (quotedTerm text).1.length := by
  induction text with
  | nil => rfl
  | cons byte text ih =>
      have other : byte ≠ 0 := free byte List.mem_cons_self
      have later : Text.NulFree text := fun byte member => free byte (List.mem_cons_of_mem _ member)
      have ends : (isspace (byteAt (text ++ [0]) 0) = true ∨ byteAt (text ++ [0]) 0 = 0) ↔
          endsWord text = true := by
        cases text with
        | nil => simp [byteAt, endsWord]
        | cons next text => simp [byteAt, endsWord, later next List.mem_cons_self]
      rw [List.cons_append, ArgvVector.quotedLength, if_neg other, quotedTerm]
      by_cases closes : byte = quote ∧ endsWord text = true
      · rw [if_pos ⟨closes.1, ends.mpr closes.2⟩, if_pos (by simpa using closes)]
        rfl
      · rw [if_neg fun cut => closes ⟨cut.1, ends.mp cut.2⟩, if_neg (by simpa using closes),
          ih later]
        rfl

/-- A plain term ends with its line, or whitespace follows. -/
theorem plainTerm_eq (text : Text) :
    (plainTerm text).1 = text ∧ (plainTerm text).2 = [] ∨
      ∃ space, isspace space = true ∧ text = (plainTerm text).1 ++ space :: (plainTerm text).2 := by
  have whole := @List.takeWhile_append_dropWhile _ (fun byte => !isspace byte) text
  cases rest : text.dropWhile fun byte => !isspace byte with
  | nil =>
      rw [rest, List.append_nil] at whole
      exact .inl ⟨whole, by rw [plainTerm, rest]; rfl⟩
  | cons space after =>
      have stops := List.head_dropWhile_not (fun byte => !isspace byte) (by rw [rest]; nofun)
      simp only [rest, List.head_cons] at stops
      refine .inr ⟨space, by simpa using stops, ?_⟩
      rw [rest] at whole
      rw [plainTerm, rest]
      exact whole.symm

namespace ArgvVector

/-- The terms so far are cut off in the front of the copy; the rest is as in the line. -/
structure Progress (vector : ArgvVector) (line : Text) (c : Nat) (front live : Text)
    (done : List Term) : Prop where
  command : vector.command = front ++ live ++ [0]
  place : c = front.length
  left : line.drop c = live
  terms : vector.terms = done.map Term.word
  argr : vector.argr.map line.drop = done.map Term.remainder
  kept : live ≠ [] → ∀ place ∈ vector.argv, 0 ∈ front.drop place
  first : vector.argv = [] → front = []

/-- A term is cut off up to its end; the rest of the line may follow a byte that is written over. -/
structure Cut (before after : ArgvVector) (line : Text) (c ending : Nat)
    (front tail word rest : Text) : Prop where
  command : after.command = front ++ tail ++ [0]
  stop : ending = front.length
  left : line.drop ending = tail
  follows : tail = [] ∧ rest = [] ∨ ∃ byte, byte ≠ 0 ∧ tail = byte :: rest
  argv : ∃ place, after.argv = before.argv ++ [place] ∧ place ≤ front.length ∧
    ∀ back, stringAt (front ++ 0 :: back) place = word
  argr : after.argr = before.argr ++ [c]
  kept : ∀ place ∈ before.argv, 0 ∈ front.drop place ∧
    ∀ back, stringAt (front ++ back) place = stringAt before.command place

variable {vector : ArgvVector} {line front live : Text} {c : Nat} {done : List Term}

theorem Progress.kept_append (progress : vector.Progress line c front live done) (more : live ≠ [])
    (word : Text) (place : Nat) (member : place ∈ vector.argv) :
    0 ∈ (front ++ word).drop place ∧
      ∀ back, stringAt (front ++ word ++ back) place = stringAt vector.command place := by
  have ends := progress.kept more place member
  refine ⟨?_, fun back => ?_⟩
  · rw [List.drop_append]
    exact List.mem_append_left _ ends
  · rw [progress.command, List.append_assoc, List.append_assoc, stringAt_append ends,
      stringAt_append ends]

/-- A plain term is cut off. -/
theorem Progress.cut_plain {byte : UInt8} {text word rest : Text}
    (progress : vector.Progress line c front (byte :: text) done)
    (free : Text.NulFree (byte :: text)) (plain : byte ≠ quote)
    (split : plainTerm (byte :: text) = (word, rest)) :
    ∃ front' tail,
      Cut vector (vector.cutTerm c).1 line c (vector.cutTerm c).2 front' tail word rest := by
  have here : byteAt vector.command c = byte := by
    rw [progress.command, progress.place, List.append_assoc]
    exact byteAt_length _ _ _
  have cut : vector.cutTerm c = (⟨vector.command, vector.argv ++ [c], vector.argr ++ [c]⟩,
      skipWhile (fun byte => byte != 0 && !isspace byte) vector.command c) := by
    rw [cutTerm, here, if_neg plain]
  have inner : ∀ other ∈ word, other ∈ byte :: text ∧ (other != 0 && !isspace other) = true := by
    rw [← (Prod.mk.inj split).1]
    intro other member
    have there := (List.takeWhile_sublist _).subset member
    have dark := List.mem_takeWhile_imp member
    exact ⟨there, by simpa [free other there] using dark⟩
  have wordFree : Text.NulFree word := fun other member => free other (inner other member).1
  have goesOver : ∀ stop back, (stop != 0 && !isspace stop) = false →
      front ++ (byte :: text ++ [0]) = front ++ word ++ stop :: back →
      skipWhile (fun byte => byte != 0 && !isspace byte) vector.command c =
        (front ++ word).length := by
    intro stop back stops same
    rw [progress.command, progress.place, List.append_assoc, same]
    exact skipWhile_length (fun other member => (inner other member).2) stops _ _
  have kept := progress.kept_append nofun word
  have starts : ∀ back, stringAt (front ++ word ++ 0 :: back) c = word := by
    rw [progress.place]
    exact stringAt_length wordFree front
  have within : c ≤ (front ++ word).length := by
    rw [progress.place, List.length_append]
    omega
  have left : line.drop (front ++ word).length = (byte :: text).drop word.length := by
    rw [List.length_append, ← progress.place, ← List.drop_drop, progress.left]
  have parts := plainTerm_eq (byte :: text)
  rw [split] at parts
  rw [cut]
  rcases parts with ⟨whole, nothing⟩ | ⟨space, white, whole⟩
  · have stop := goesOver 0 [] rfl (by rw [← whole, List.append_assoc])
    refine ⟨front ++ word, [], ?_, stop, ?_, .inl ⟨rfl, nothing⟩, ⟨c, rfl, within, starts⟩, rfl,
      kept⟩
    · rw [progress.command, ← whole, List.append_nil]
    · dsimp only
      rw [stop, left, ← whole, List.drop_length]
  · have other : space ≠ 0 := by
      rintro rfl
      cases white
    have stop := goesOver space (rest ++ [0]) (by simp [white]) (by rw [whole]; simp)
    refine ⟨front ++ word, space :: rest, ?_, stop, ?_, .inr ⟨space, other, rfl⟩,
      ⟨c, rfl, within, starts⟩, rfl, kept⟩
    · rw [progress.command, whole]
      simp
    · dsimp only
      rw [stop, left, whole]
      exact List.drop_left

/-- A quoted term is cut off: the first is shifted down, of a later one the place moves up. -/
theorem Progress.cut_quoted {text word rest : Text}
    (progress : vector.Progress line c front (quote :: text) done) (free : Text.NulFree text)
    (split : quotedTerm text = (word, rest)) :
    ∃ front' tail,
      Cut vector (vector.cutTerm c).1 line c (vector.cutTerm c).2 front' tail word rest := by
  have length : quotedLength (text ++ [0]) = word.length := by rw [quotedLength_eq free, split]
  obtain ⟨tail, parts, follows⟩ : ∃ tail, text = word ++ tail ∧
      (tail = [] ∧ rest = [] ∨ ∃ byte, byte ≠ 0 ∧ tail = byte :: rest) := by
    have ends := quotedTerm_eq text
    rw [split] at ends
    rcases ends with ⟨whole, nothing⟩ | ⟨closed, -⟩
    · exact ⟨[], whole.symm.trans (List.append_nil _).symm, .inl ⟨rfl, nothing⟩⟩
    · exact ⟨_, closed, .inr ⟨quote, by decide, rfl⟩⟩
  have wordFree : Text.NulFree word := fun byte member => free byte (by
    rw [parts]
    exact List.mem_append_left _ member)
  have here : byteAt vector.command c = quote := by
    rw [progress.command, progress.place, List.append_assoc]
    exact byteAt_length _ _ _
  have inside : vector.command.drop (c + 1) = text ++ [0] := by
    rw [progress.command, progress.place]
    simp
  have left : line.drop (c + 1 + word.length) = tail := by
    rw [← List.drop_drop, ← List.drop_drop, progress.left, List.drop_one, List.tail_cons, parts]
    exact List.drop_left
  cases earlier : vector.argv with
  | nil =>
      have start := progress.first earlier
      have zero : c = 0 := by rw [progress.place, start]; rfl
      obtain ⟨head, back, after⟩ : ∃ head back, tail ++ [0] = head :: back := by
        cases tail with
        | nil => exact ⟨_, _, rfl⟩
        | cons head tail => exact ⟨_, _, rfl⟩
      have shifted : (memmove vector.command 0 1 (word.length + 1)).set word.length 0 =
          word ++ [0] ++ tail ++ [0] := by
        have whole : vector.command = quote :: word ++ head :: back := by
          rw [progress.command, start, parts, ← after]
          simp
        rw [whole, memmove_shift, set_length, List.append_assoc _ tail, after]
        simp
      have cut : vector.cutTerm c =
          (⟨word ++ [0] ++ tail ++ [0], vector.argv ++ [0], vector.argr ++ [c]⟩,
            word.length + 1) := by
        rw [cutTerm, here, if_pos rfl, inside, length, earlier, zero, ← shifted]
        simp [Nat.add_comm 1]
      rw [cut]
      refine ⟨word ++ [0], tail, rfl, by simp, ?_, follows,
        ⟨0, rfl, Nat.zero_le _, ?_⟩, rfl, ?_⟩
      · rw [zero] at left
        rwa [Nat.add_comm] at left
      · intro back
        have starts := stringAt_length wordFree [] (0 :: back)
        simpa using starts
      · rw [earlier]
        nofun
  | cons place places =>
      have cut : vector.cutTerm c =
          (⟨vector.command, vector.argv ++ [c + 1], vector.argr ++ [c]⟩,
            c + 1 + word.length) := by
        rw [cutTerm, here, if_pos rfl, inside, length, if_neg (by simp [earlier])]
      have grown : (front ++ quote :: word).length = c + 1 + word.length := by
        rw [progress.place, List.length_append, List.length_cons]
        omega
      rw [cut]
      refine ⟨front ++ quote :: word, tail, ?_, grown.symm, left, follows, ⟨c + 1, rfl, ?_, ?_⟩,
        rfl, progress.kept_append nofun (quote :: word)⟩
      · rw [progress.command, parts]
        simp
      · rw [grown]
        exact Nat.le_add_right _ _
      · intro back
        have starts := stringAt_length wordFree (front ++ [quote]) back
        simpa [progress.place] using starts

/-- What is cut off is the first term of the rest of the line. -/
theorem Progress.cut {byte : UInt8} {text : Text}
    (progress : vector.Progress line c front (byte :: text) done)
    (free : Text.NulFree (byte :: text)) :
    ∃ front' tail, Cut vector (vector.cutTerm c).1 line c (vector.cutTerm c).2 front' tail
      (firstTerm (byte :: text)).1 (firstTerm (byte :: text)).2 := by
  by_cases quoted : byte = quote
  · subst quoted
    exact progress.cut_quoted (fun byte member => free byte (List.mem_cons_of_mem _ member)) rfl
  · rw [firstTerm, if_neg (by simpa using quoted)]
    exact progress.cut_plain free quoted rfl

/-- After a term was cut off and terminated, it is done. -/
theorem Progress.terminate {vector' : ArgvVector} {ending : Nat} {front' tail word rest : Text}
    (progress : vector.Progress line c front live done)
    (cut : Cut vector vector' line c ending front' tail word rest) :
    ∃ front'', (vector'.terminate ending).1.Progress line (vector'.terminate ending).2 front''
      (rest.dropWhile isspace) (done ++ [⟨word, live⟩]) := by
  obtain ⟨place, argv, within, starts⟩ := cut.argv
  have terms : ∀ back, vector'.argv.map (stringAt (front' ++ 0 :: back)) =
      (done ++ [Term.mk word live]).map Term.word := by
    intro back
    have old : vector.argv.map (stringAt (front' ++ 0 :: back)) = done.map Term.word := by
      rw [← progress.terms]
      exact List.map_congr_left fun place member => (cut.kept place member).2 _
    rw [argv, List.map_append, List.map_append, old, List.map_singleton, starts]
    rfl
  have argr : vector'.argr.map line.drop = (done ++ [Term.mk word live]).map Term.remainder := by
    rw [cut.argr, List.map_append, List.map_append, progress.argr, List.map_singleton,
      progress.left]
    rfl
  have some : vector'.argv ≠ [] := by
    rw [argv]
    simp
  rcases cut.follows with ⟨nothing, ended⟩ | ⟨byte, other, follows⟩
  · have command : vector'.command = front' ++ [0] := by
      rw [cut.command, nothing, List.append_nil]
    have stays : vector'.terminate ending = (vector', ending) := by
      have stop : byteAt (front' ++ [0]) front'.length = 0 := byteAt_length _ _ _
      rw [ArgvVector.terminate, cut.stop, command, stop, if_neg (not_not_intro rfl)]
      have stays := @skipWhile_length [] 0 isspace nofun rfl front' []
      rw [List.append_nil] at stays
      rw [stays]
    rw [stays, ended]
    exact ⟨front', by rw [command]; simp, cut.stop, by rw [cut.left, nothing]; rfl,
      by rw [ArgvVector.terms, command]; exact terms [], argr, fun more => absurd rfl more,
      fun none => absurd none some⟩
  · have command : vector'.command = front' ++ byte :: (rest ++ [0]) := by
      rw [cut.command, follows, List.append_assoc]
      rfl
    have split := @List.takeWhile_append_dropWhile _ isspace rest
    have goesOn : vector'.terminate ending =
        ({ vector' with command := front' ++ 0 :: (rest ++ [0]) },
          ending + 1 + (rest.takeWhile isspace).length) := by
      have goesOver : skipWhile isspace (front' ++ 0 :: (rest ++ [0])) (front'.length + 1) =
          front'.length + 1 + (rest.takeWhile isspace).length := by
        rw [skipWhile, ← @takeWhile_concat 0 isspace rfl rest]
        simp
      rw [ArgvVector.terminate, cut.stop, command, byteAt_length, if_pos other]
      dsimp only
      rw [set_length, goesOver]
    have left : line.drop (ending + 1 + (rest.takeWhile isspace).length) =
        rest.dropWhile isspace := by
      rw [← List.drop_drop, ← List.drop_drop, cut.left, follows, List.drop_one, List.tail_cons]
      nth_rewrite 2 [← split]
      exact List.drop_left
    rw [goesOn]
    refine ⟨front' ++ 0 :: rest.takeWhile isspace, ?_, ?_, left, terms _, argr, fun _ => ?_,
      fun none => absurd none some⟩
    · nth_rewrite 1 [← split]
      simp
    · rw [cut.stop, List.length_append, List.length_cons]
      omega
    · intro old member
      rw [argv] at member
      rcases List.mem_append.mp member with earlier | here
      · rw [List.drop_append]
        exact List.mem_append_left _ (cut.kept old earlier).1
      · rw [List.mem_singleton.mp here, List.drop_append_of_le_length within]
        exact List.mem_append_right _ List.mem_cons_self

/-- Every term uses up some of the line. -/
theorem firstTerm_length (byte : UInt8) (text : Text) :
    (firstTerm (byte :: text)).2.length ≤ text.length := by
  rw [firstTerm]
  split
  · rcases quotedTerm_eq text with ⟨-, nothing⟩ | ⟨closed, -⟩
    · rw [nothing]
      exact Nat.zero_le _
    · have lengths := congrArg List.length closed
      rw [List.length_append, List.length_cons] at lengths
      omega
  · rcases plainTerm_eq (byte :: text) with ⟨-, nothing⟩ | ⟨space, -, parts⟩
    · rw [nothing]
      exact Nat.zero_le _
    · have lengths := congrArg List.length parts
      rw [List.length_append, List.length_cons, List.length_cons] at lengths
      omega

theorem splitTerms_nil (fuel : Nat) : splitTerms fuel [] = [] := by
  cases fuel <;> rfl

/-- The copy keeps its size, and no term starts behind the place that was reached. -/
structure Within (vector : ArgvVector) (line : Text) (c : Nat) : Prop where
  length : vector.command.length = line.length + 1
  places : ∀ place ∈ vector.argv, place ≤ c

private theorem quotedLength_lt {text : Text} (ends : 0 ∈ text) :
    quotedLength text < text.length := by
  induction text with
  | nil => cases ends
  | cons byte text ih =>
      rw [quotedLength, List.length_cons]
      split
      · exact Nat.succ_pos _
      · rename_i other
        split
        · exact Nat.succ_pos _
        · exact Nat.succ_lt_succ (ih ((List.mem_cons.mp ends).resolve_left (Ne.symm other)))

private theorem length_cutTerm (ends : 0 ∈ vector.command.drop (c + 1)) :
    (vector.cutTerm c).1.command.length = vector.command.length := by
  rw [cutTerm]
  dsimp only
  split
  · split
    · have inside := quotedLength_lt ends
      rw [List.length_drop] at inside
      rw [List.length_set]
      exact length_memmove (by omega) (Nat.le_succ c)
    · rfl
  · rfl

private theorem le_cutTerm (vector : ArgvVector) (c : Nat) : c ≤ (vector.cutTerm c).2 := by
  rw [cutTerm]
  dsimp only
  split
  · split <;> exact (Nat.le_succ c).trans (Nat.le_add_right _ _)
  · exact Nat.le_add_right _ _

private theorem le_terminate (vector : ArgvVector) (c : Nat) : c ≤ (vector.terminate c).2 := by
  rw [ArgvVector.terminate]
  split
  · exact (Nat.le_succ c).trans (Nat.le_add_right _ _)
  · exact Nat.le_add_right _ _

@[simp]
theorem terminate_argv (vector : ArgvVector) (c : Nat) :
    (vector.terminate c).1.argv = vector.argv := by
  rw [ArgvVector.terminate]
  split <;> rfl

@[simp]
theorem length_terminate (vector : ArgvVector) (c : Nat) :
    (vector.terminate c).1.command.length = vector.command.length := by
  rw [ArgvVector.terminate]
  split
  · exact List.length_set
  · rfl

/-- Terms are never given up. -/
theorem length_cutTerm_argv (vector : ArgvVector) (c : Nat) :
    (vector.cutTerm c).1.argv.length = vector.argv.length + 1 := by
  rw [cutTerm]
  dsimp only
  split
  · split <;> simp
  · simp

theorem length_cutTerms_argv (fuel : Nat) (vector : ArgvVector) (c : Nat) :
    vector.argv.length ≤ (cutTerms fuel vector c).argv.length := by
  induction fuel generalizing vector c with
  | zero => exact Nat.le_refl _
  | succ fuel ih =>
      rw [cutTerms]
      split
      · exact Nat.le_refl _
      · refine le_trans ?_ (ih _ _)
        rw [terminate_argv, length_cutTerm_argv]
        exact Nat.le_succ _

/-- A turn of the loop stays within the copy. -/
theorem Progress.within {byte : UInt8} {text : Text}
    (progress : vector.Progress line c front (byte :: text) done)
    (free : Text.NulFree (byte :: text)) (within : vector.Within line c) :
    ((vector.cutTerm c).1.terminate (vector.cutTerm c).2).1.Within line
      ((vector.cutTerm c).1.terminate (vector.cutTerm c).2).2 := by
  obtain ⟨front', tail, cut⟩ := progress.cut free
  obtain ⟨place, argv, reached, -⟩ := cut.argv
  have further := le_terminate (vector.cutTerm c).1 (vector.cutTerm c).2
  have ends : 0 ∈ vector.command.drop (c + 1) := by
    rw [progress.command, progress.place]
    simp
  refine ⟨?_, fun other member => ?_⟩
  · rw [length_terminate, length_cutTerm ends, within.length]
  · rw [terminate_argv, argv] at member
    rcases List.mem_append.mp member with earlier | here
    · exact (within.places other earlier).trans ((le_cutTerm vector c).trans further)
    · rw [List.mem_singleton.mp here]
      rw [← cut.stop] at reached
      exact reached.trans further

/-- The loop cuts off the terms of the rest of the line, within the copy. -/
theorem Progress.cutTerms {fuel more : Nat} (progress : vector.Progress line c front live done)
    (free : Text.NulFree line) (enough : live.length ≤ fuel) (plenty : live.length ≤ more)
    (within : vector.Within line c) :
    ∃ ending front',
      (ArgvVector.cutTerms fuel vector c).Progress line ending front' []
        (done ++ splitTerms more live) ∧
      (ArgvVector.cutTerms fuel vector c).Within line ending := by
  induction fuel generalizing vector c front live done more with
  | zero =>
      obtain rfl := List.length_eq_zero_iff.mp (Nat.le_zero.mp enough)
      rw [splitTerms_nil, List.append_nil]
      exact ⟨c, front, progress, within⟩
  | succ fuel ih =>
      have here : byteAt vector.command c = byteAt (live ++ [0]) 0 := by
        rw [progress.command, progress.place, List.append_assoc, byteAt,
          List.getElem?_append_right (Nat.le_refl _), Nat.sub_self, byteAt]
      cases live with
      | nil =>
          have stops : byteAt vector.command c = 0 := here
          rw [ArgvVector.cutTerms, if_pos stops, splitTerms_nil, List.append_nil]
          exact ⟨c, front, progress, within⟩
      | cons byte text =>
          have liveFree : Text.NulFree (byte :: text) := fun other member => free other (by
            rw [← progress.left] at member
            exact List.mem_of_mem_drop member)
          have goesOn : byteAt vector.command c ≠ 0 := by
            rw [here]
            exact liveFree byte List.mem_cons_self
          obtain ⟨front', tail, cut⟩ := progress.cut liveFree
          obtain ⟨front'', after⟩ := progress.terminate cut
          have shorter := Nat.le_trans (List.dropWhile_sublist isspace).length_le
            (firstTerm_length byte text)
          cases more with
          | zero => cases plenty
          | succ more =>
              rw [ArgvVector.cutTerms, if_neg goesOn, splitTerms_cons, List.append_cons]
              exact ih after (shorter.trans (Nat.le_of_succ_le_succ enough))
                (shorter.trans (Nat.le_of_succ_le_succ plenty)) (progress.within liveFree within)

/-- All of a line without NULs is split, within the copy. -/
theorem secondPass_progress {commandline : Text} (free : Text.NulFree commandline) :
    ∃ ending front,
      (secondPass commandline).Progress (commandline.dropWhile isspace) ending front []
        (commandTerms commandline) ∧
      (secondPass commandline).Within (commandline.dropWhile isspace) ending := by
  have skipped := @List.dropWhile_sublist _ commandline isspace
  have start : Progress ⟨commandline.dropWhile isspace ++ [0], [], []⟩
      (commandline.dropWhile isspace) 0 [] (commandline.dropWhile isspace) [] :=
    ⟨rfl, rfl, rfl, rfl, rfl, fun _ _ none => (nomatch none), fun _ => rfl⟩
  refine start.cutTerms (fun byte member => free byte (skipped.subset member)) ?_
    skipped.length_le ⟨List.length_append, fun _ none => (nomatch none)⟩
  rw [List.length_append]
  exact Nat.le_succ _

/-- A line without NULs is split into its terms, and the remainders are those of its terms. -/
theorem secondPass_eq {commandline : Text} (free : Text.NulFree commandline) :
    (secondPass commandline).terms = (commandTerms commandline).map Term.word ∧
      (secondPass commandline).remainders commandline =
        (commandTerms commandline).map Term.remainder := by
  obtain ⟨ending, front, progress, -⟩ := secondPass_progress free
  exact ⟨progress.terms, progress.argr⟩

/-! ## Room for the terms -/

/-- The number of places where a word starts; the first may continue one. -/
def wordStarts (fresh : Bool) : Text → Nat
  | [] => 0
  | byte :: text =>
      if isspace byte then wordStarts true text
      else (if fresh then 1 else 0) + wordStarts false text

/-- Twice the number of words of a line, and two for the nulls, is an `int`. -/
def FewWords (commandline : Text) : Prop := wordStarts true commandline + 1 < 2 ^ 30

instance (commandline : Text) : Decidable (FewWords commandline) :=
  inferInstanceAs (Decidable (_ < _))

theorem wordStarts_dropWhile_space (text : Text) :
    wordStarts true (text.dropWhile isspace) = wordStarts true text := by
  induction text with
  | nil => rfl
  | cons byte text ih =>
      rw [List.dropWhile_cons]
      split
      · rename_i white
        rw [ih, wordStarts, if_pos white]
      · rfl

private theorem wordStarts_dropWhile_word (text : Text) :
    wordStarts true (text.dropWhile fun byte => !isspace byte) = wordStarts false text := by
  induction text with
  | nil => rfl
  | cons byte text ih =>
      rw [List.dropWhile_cons]
      cases white : isspace byte with
      | true => simp [wordStarts, white]
      | false => simpa [wordStarts, white] using ih

/-- Words that start after whitespace start in the whole text. -/
theorem wordStarts_append (fresh : Bool) (front rest : Text) {space : UInt8}
    (white : isspace space = true) :
    wordStarts true rest ≤ wordStarts fresh (front ++ space :: rest) := by
  induction front generalizing fresh with
  | nil =>
      rw [List.nil_append, wordStarts, if_pos white]
  | cons byte front ih =>
      rw [List.cons_append, wordStarts]
      split
      · exact ih true
      · exact (ih false).trans (Nat.le_add_left _ _)

theorem dark_of_dropWhile {byte : UInt8} {text : Text}
    (starts : (byte :: text).dropWhile isspace = byte :: text) : isspace byte = false :=
  Bool.eq_false_iff.mpr (List.dropWhile_eq_self_iff.mp starts (Nat.succ_pos _))

/-- Where words are counted, one starts. -/
theorem countWords_eq {fuel : Nat} {text : Text} (enough : text.length ≤ fuel)
    (starts : text.dropWhile isspace = text) : countWords fuel text = wordStarts true text := by
  induction fuel generalizing text with
  | zero =>
      rw [List.length_eq_zero_iff.mp (Nat.le_zero.mp enough)]
      rfl
  | succ fuel ih =>
      cases text with
      | nil => rfl
      | cons byte text =>
          have dark := dark_of_dropWhile starts
          have word : (byte :: text).dropWhile (fun byte => !isspace byte) =
              text.dropWhile fun byte => !isspace byte :=
            List.dropWhile_cons_of_pos (by rw [dark]; rfl)
          have shorter : ((text.dropWhile fun byte => !isspace byte).dropWhile isspace).length ≤
              fuel :=
            ((List.dropWhile_sublist _).trans (List.dropWhile_sublist _)).length_le.trans
              (Nat.le_of_succ_le_succ enough)
          rw [countWords, word, ih shorter (List.dropWhile_idempotent _ _),
            wordStarts_dropWhile_space, wordStarts_dropWhile_word, wordStarts, dark]
          · rfl
          · nofun

/-- Every term takes at least one word. -/
theorem splitTerms_length (fuel : Nat) {text : Text} (starts : text.dropWhile isspace = text) :
    (splitTerms fuel text).length ≤ wordStarts true text := by
  induction fuel generalizing text with
  | zero => exact Nat.zero_le _
  | succ fuel ih =>
      cases text with
      | nil => exact Nat.zero_le _
      | cons byte text =>
          have dark := dark_of_dropWhile starts
          have rest : wordStarts true (firstTerm (byte :: text)).2 ≤ wordStarts false text := by
            rw [firstTerm]
            split
            · rcases quotedTerm_eq text with ⟨-, nothing⟩ | ⟨closed, ends⟩
              · rw [nothing]
                exact Nat.zero_le _
              · cases after : (quotedTerm text).2 with
                | nil => exact Nat.zero_le _
                | cons space more =>
                    rw [after] at closed ends
                    have white : isspace space = true := ends
                    rw [wordStarts, if_pos white, closed, List.append_cons]
                    exact wordStarts_append false _ _ white
            · rcases plainTerm_eq (byte :: text) with ⟨-, nothing⟩ | ⟨space, white, parts⟩
              · rw [nothing]
                exact Nat.zero_le _
              · have within := wordStarts_append false (plainTerm (byte :: text)).1
                  (plainTerm (byte :: text)).2 white
                rw [← parts, wordStarts, dark] at within
                simpa using within
          have more := ih (List.dropWhile_idempotent isspace (firstTerm (byte :: text)).2)
          rw [wordStarts_dropWhile_space] at more
          rw [splitTerms_cons, List.length_cons, wordStarts, dark, if_neg Bool.false_ne_true,
            if_pos rfl, Nat.add_comm 1]
          exact Nat.succ_le_succ (more.trans rest)

private theorem secondPass_room {commandline : Text} (free : Text.NulFree commandline) :
    (secondPass commandline).argv.length ≤
      countWords commandline.length (commandline.dropWhile isspace) := by
  have split := congrArg List.length (secondPass_eq free).1
  have starts := List.dropWhile_idempotent isspace commandline
  have within := splitTerms_length commandline.length starts
  rw [terms, List.length_map, List.length_map, commandTerms] at split
  rw [split, countWords_eq (List.dropWhile_sublist _).length_le starts]
  exact within

/-- There are no more terms than words. -/
theorem length_argv_secondPass {commandline : Text} (free : Text.NulFree commandline) :
    (secondPass commandline).argv.length ≤ wordStarts true commandline := by
  have room := secondPass_room free
  rwa [countWords_eq (List.dropWhile_sublist _).length_le (List.dropWhile_idempotent _ _),
    wordStarts_dropWhile_space] at room

end ArgvVector

end Football
