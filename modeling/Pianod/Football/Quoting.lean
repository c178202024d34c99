import Pianod.Football.ArgvArray

/-!
# Quoting terms

A term is written bare or between quotes.  Terms that are written so, with whitespace between them,
are read back as they were, whatever was chosen for each.
-/

namespace Football

open Foundation

/-- A term that can be written as it is. -/
def Bare (term : Text) : Prop :=
  term ≠ [] ∧ (∀ byte ∈ term, isspace byte = false) ∧ term.head? ≠ some quote

/-- A term that can be written between quotes. -/
def Quotable (term : Text) : Prop :=
  term.IsChain fun byte next => byte = quote → isspace next = false

instance (term : Text) : Decidable (Bare term) :=
  have : Decidable (∀ byte ∈ term, isspace byte = false) := List.decidableBAll _ _
  inferInstanceAs (Decidable (_ ∧ _ ∧ _))

instance (term : Text) : Decidable (Quotable term) := inferInstanceAs (Decidable (List.IsChain _ _))

/-- A term as it is written, and the whitespace after it. -/
structure WrittenTerm where
  /-- The term itself. -/
  term : Text
  free : Text.NulFree term
  /-- Whether it is written between quotes. -/
  quoted : Bool
  allowed : if quoted then Quotable term else Bare term
  /-- The blanks after it. -/
  space : Text
  white : ∀ byte ∈ space, isspace byte = true

namespace WrittenTerm

/-- What is written. -/
def spelling (written : WrittenTerm) : Text :=
  if written.quoted then quote :: written.term ++ [quote] else written.term

end WrittenTerm

/-- Terms and whitespace. -/
def writeTerms : List WrittenTerm → Text
  | [] => []
  | written :: more => written.spelling ++ written.space ++ writeTerms more

/-- Whitespace is required between terms. -/
def Separated (terms : List WrittenTerm) : Prop := ∀ written ∈ terms.dropLast, written.space ≠ []

instance (terms : List WrittenTerm) : Decidable (Separated terms) := List.decidableBAll _ _

/-! ## One term -/

/-- The closing quote is the first at the end of a word. -/
theorem quotedTerm_quotable {term after : Text} (quotable : Quotable term)
    (ends : endsWord after = true) : quotedTerm (term ++ quote :: after) = (term, after) := by
  induction term with
  | nil =>
      rw [List.nil_append, quotedTerm, if_pos]
      simpa using ends
  | cons byte term ih =>
      have goesOn : ¬(byte == quote && endsWord (term ++ quote :: after)) = true := by
        intro stops
        obtain ⟨same, stops⟩ := Bool.and_eq_true_iff.mp stops
        cases term with
        | nil => cases stops
        | cons next term =>
            have dark := (List.isChain_cons_cons.mp quotable).1 (beq_iff_eq.mp same)
            exact Bool.false_ne_true (dark.symm.trans stops)
      rw [List.cons_append, quotedTerm, if_neg goesOn, ih quotable.of_cons]

/-- A bare term ends before the next whitespace. -/
theorem plainTerm_bare {term after : Text} (dark : ∀ byte ∈ term, isspace byte = false)
    (ends : endsWord after = true) : plainTerm (term ++ after) = (term, after.drop 1) := by
  have all : ∀ byte ∈ term, (!isspace byte) = true := fun byte member => by
    rw [dark byte member]
    rfl
  rw [plainTerm, List.takeWhile_append_of_pos all, List.dropWhile_append_of_pos all]
  cases after with
  | nil => simp
  | cons byte after =>
      have stops : isspace byte = true := ends
      simp [stops]

namespace WrittenTerm

/-- A written term is the first of its line. -/
theorem firstTerm_spelling (written : WrittenTerm) {after : Text} (ends : endsWord after = true) :
    ∃ byte text rest, written.spelling ++ after = byte :: text ∧ isspace byte = false ∧
      firstTerm (byte :: text) = (written.term, rest) ∧
      rest.dropWhile isspace = after.dropWhile isspace := by
  have allowed := written.allowed
  cases quoted : written.quoted with
  | true =>
      rw [quoted, if_pos rfl] at allowed
      refine ⟨quote, written.term ++ quote :: after, after, ?_, rfl,
        quotedTerm_quotable allowed ends, rfl⟩
      rw [spelling, if_pos quoted]
      simp
  | false =>
      rw [quoted, if_neg Bool.false_ne_true] at allowed
      obtain ⟨more, dark, head⟩ := allowed
      obtain ⟨byte, text, same⟩ := List.exists_cons_of_ne_nil more
      have plain : ¬(byte == quote) = true := by
        rw [beq_iff_eq]
        rintro rfl
        exact head (by rw [same]; rfl)
      have read := plainTerm_bare dark ends
      rw [same, List.cons_append] at read
      refine ⟨byte, text ++ after, after.drop 1, ?_, dark byte (by rw [same]; simp), ?_, ?_⟩
      · rw [spelling, if_neg (by rw [quoted]; exact Bool.false_ne_true), same]
        rfl
      · rw [firstTerm, if_neg plain, same]
        exact read
      · cases after with
        | nil => rfl
        | cons space after =>
            have white : isspace space = true := ends
            rw [List.dropWhile_cons_of_pos white, List.drop_one, List.tail_cons]

private theorem spelling_free (written : WrittenTerm) : Text.NulFree written.spelling := by
  intro byte member
  rw [spelling] at member
  split at member
  · rcases List.mem_cons.mp member with rfl | member
    · decide
    · rcases List.mem_append.mp member with inside | last
      · exact written.free byte inside
      · rw [List.mem_singleton.mp last]
        decide
  · exact written.free byte member

end WrittenTerm

/-! ## Whole lines -/

theorem free_of_white {space : Text} (white : ∀ byte ∈ space, isspace byte = true) :
    Text.NulFree space := by
  rintro byte member rfl
  exact Bool.false_ne_true (white 0 member)

private theorem writeTerms_free (terms : List WrittenTerm) : Text.NulFree (writeTerms terms) := by
  induction terms with
  | nil => nofun
  | cons written terms ih =>
      intro byte member
      rcases List.mem_append.mp member with front | later
      · rcases List.mem_append.mp front with word | space
        · exact written.spelling_free byte word
        · exact free_of_white written.white byte space
      · exact ih byte later

@[simp]
theorem writeTerms_append (front back : List WrittenTerm) :
    writeTerms (front ++ back) = writeTerms front ++ writeTerms back := by
  induction front with
  | nil => rfl
  | cons written front ih =>
      rw [List.cons_append, writeTerms, ih, writeTerms, List.append_assoc _ (writeTerms front)]

theorem dropWhile_writeTerms (terms : List WrittenTerm) :
    (writeTerms terms).dropWhile isspace = writeTerms terms := by
  cases terms with
  | nil => rfl
  | cons written terms =>
      obtain ⟨byte, text, rest, line, dark, -⟩ := @WrittenTerm.firstTerm_spelling written [] rfl
      rw [List.append_nil] at line
      rw [writeTerms, line, List.append_assoc, List.cons_append, List.dropWhile_cons_of_neg (by
        rw [dark]
        exact Bool.false_ne_true)]

/-- Where whitespace is required, a word ends. -/
theorem Separated.endsWord {written : WrittenTerm} {terms : List WrittenTerm}
    (separated : Separated (written :: terms)) :
    endsWord (written.space ++ writeTerms terms) = true := by
  cases space : written.space with
  | nil =>
      cases terms with
      | nil => rfl
      | cons next terms =>
          exact absurd space (separated written (by
            rw [List.dropLast_cons_cons]
            exact List.mem_cons_self))
  | cons byte more => exact written.white byte (by rw [space]; exact List.mem_cons_self)

theorem Separated.tail {written : WrittenTerm} {terms : List WrittenTerm}
    (separated : Separated (written :: terms)) : Separated terms := by
  cases terms with
  | nil => nofun
  | cons next terms =>
      intro later member
      refine separated later ?_
      rw [List.dropLast_cons_cons]
      exact List.mem_cons_of_mem _ member

/-- Written terms are split off one after another. -/
theorem splitTerms_writeTerms {terms : List WrittenTerm} (separated : Separated terms) {fuel : Nat}
    (enough : (writeTerms terms).length ≤ fuel) :
    (splitTerms fuel (writeTerms terms)).map Term.word = terms.map WrittenTerm.term ∧
      (splitTerms fuel (writeTerms terms)).map Term.remainder =
        (List.range terms.length).map fun i => writeTerms (terms.drop i) := by
  induction terms generalizing fuel with
  | nil =>
      rw [writeTerms, ArgvVector.splitTerms_nil]
      exact ⟨rfl, rfl⟩
  | cons written terms ih =>
      obtain ⟨byte, text, rest, line, -, read, left⟩ :=
        written.firstTerm_spelling separated.endsWord
      rw [List.dropWhile_append_of_pos written.white, dropWhile_writeTerms] at left
      have shorter : (writeTerms terms).length ≤ text.length := by
        rw [← left]
        have used := ArgvVector.firstTerm_length byte text
        rw [read] at used
        exact (List.dropWhile_sublist isspace).length_le.trans used
      have whole : writeTerms (written :: terms) = byte :: text := by
        rw [← line, writeTerms, List.append_assoc]
      rw [whole] at enough
      cases fuel with
      | zero => cases enough
      | succ fuel =>
          obtain ⟨words, remainders⟩ := ih separated.tail
            (shorter.trans (Nat.le_of_succ_le_succ enough))
          rw [whole, splitTerms_cons, read]
          dsimp only
          rw [left, List.map_cons, List.map_cons, List.map_cons, words, remainders,
            List.length_cons, List.range_succ_eq_map, List.map_cons, List.map_map]
          exact ⟨rfl, congrArg (· :: _) whole.symm⟩

/-- The array holds the written terms, and with each of them the rest of the line from where it was
written. -/
structure ReadsBack (array : ArgvArray) (leading : Text) (written : List WrittenTerm) : Prop where
  terms : array.terms (leading ++ writeTerms written) = written.map fun term => some term.term
  remainders : array.remainders (leading ++ writeTerms written) =
    (List.range written.length).map fun i =>
      some ((leading ++ writeTerms written).drop (leading ++ writeTerms (written.take i)).length)

private theorem drop_writeTerms (leading : Text) (terms : List WrittenTerm) (i : Nat) :
    (leading ++ writeTerms terms).drop (leading ++ writeTerms (terms.take i)).length =
      writeTerms (terms.drop i) := by
  have parts : leading ++ writeTerms terms =
      leading ++ writeTerms (terms.take i) ++ writeTerms (terms.drop i) := by
    rw [List.append_assoc, ← writeTerms_append, List.take_append_drop]
  rw [parts, List.drop_left]

section Writing

variable {leading : Text} {terms : List WrittenTerm}

private theorem commandTerms_writeTerms (white : ∀ byte ∈ leading, isspace byte = true)
    (separated : Separated terms) :
    (commandTerms (leading ++ writeTerms terms)).map Term.word = terms.map WrittenTerm.term ∧
      (commandTerms (leading ++ writeTerms terms)).map Term.remainder =
        (List.range terms.length).map fun i => writeTerms (terms.drop i) := by
  have enough : (writeTerms terms).length ≤ (leading ++ writeTerms terms).length := by
    rw [List.length_append]
    exact Nat.le_add_left _ _
  rw [commandTerms, List.dropWhile_append_of_pos white, dropWhile_writeTerms]
  exact splitTerms_writeTerms separated enough

/-- If the words of a line can be counted, its terms are read back. -/
theorem fbCreateArgv_writeTerms (white : ∀ byte ∈ leading, isspace byte = true)
    (separated : Separated terms) (few : ArgvVector.FewWords (leading ++ writeTerms terms))
    (memory : ArgvMemory) :
    ∃ created, ArgvArray.fbCreateArgv memory (leading ++ writeTerms terms) = .ok created ∧
      created.isSome = (memory.strdup && memory.calloc) ∧
      ∀ array ∈ created, ReadsBack array leading terms := by
  have free : Text.NulFree (leading ++ writeTerms terms) :=
    (free_of_white white).append (writeTerms_free terms)
  obtain ⟨words, remainders⟩ := commandTerms_writeTerms white separated
  obtain ⟨created, creates, memories, holds⟩ := ArgvArray.fbCreateArgv_terms free few memory
  refine ⟨created, creates, memories, fun array stored => ?_⟩
  obtain ⟨read, rest⟩ := holds array stored
  rw [← List.map_map, words, List.map_map] at read
  rw [← List.map_map, remainders, List.map_map] at rest
  refine ⟨read, rest.trans (List.map_congr_left fun i _ => ?_)⟩
  exact congrArg some (drop_writeTerms leading terms i).symm

/-- Written terms, with whitespace around them, are read back, each with the rest of the line from
where it was written, just if the words of the line can be counted; without memory there
are none. -/
theorem fbCreateArgv_writeTerms_iff (white : ∀ byte ∈ leading, isspace byte = true)
    (separated : Separated terms) :
    (∀ memory, ∃ created, ArgvArray.fbCreateArgv memory (leading ++ writeTerms terms) =
        .ok created ∧ created.isSome = (memory.strdup && memory.calloc) ∧
      ∀ array ∈ created, ReadsBack array leading terms) ↔
    ArgvVector.FewWords (leading ++ writeTerms terms) := by
  refine ⟨fun reads => ?_, fbCreateArgv_writeTerms white separated⟩
  by_contra many
  obtain ⟨created, creates, -⟩ := reads .plenty
  rw [ArgvMemory.plenty, ArgvArray.fbCreateArgv_overflow true (Nat.le_of_not_lt many)] at creates
  cases creates

end Writing

/-- A quoted term with a blank and a quote inside it. -/
def sampleQuoted (space : Text) (white : ∀ byte ∈ space, isspace byte = true) : WrittenTerm where
  term := ascii "\"it\"s me"
  free := by decide
  quoted := true
  allowed := by decide
  space := space
  white := white

/-- A bare term. -/
def sampleBare (space : Text) (white : ∀ byte ∈ space, isspace byte = true) : WrittenTerm where
  term := ascii "say"
  free := by decide
  quoted := false
  allowed := by decide
  space := space
  white := white

theorem fbCreateArgv_writeTerms_sample :
    let terms := [sampleQuoted (ascii "  ") (List.all_eq_true.mp (by decide)),
      sampleBare (ascii "\t") (List.all_eq_true.mp (by decide)),
      sampleQuoted [] (List.all_eq_true.mp (by decide))]
    ∀ memory, ∃ created,
      ArgvArray.fbCreateArgv memory (ascii " " ++ writeTerms terms) = .ok created ∧
        created.isSome = (memory.strdup && memory.calloc) ∧
        ∀ array ∈ created, ReadsBack array (ascii " ") terms :=
  (fbCreateArgv_writeTerms_iff (List.all_eq_true.mp (by decide)) (by decide)).mpr (by decide)

/-- A bare term of one letter, with a blank after it. -/
def letterTerm : WrittenTerm where
  term := ascii "x"
  free := by decide
  quoted := false
  allowed := by decide
  space := ascii " "
  white := List.all_eq_true.mp (by decide)

private theorem writeTerms_letters (count : Nat) :
    writeTerms (List.replicate count letterTerm) = ArgvArray.letters count := by
  induction count with
  | zero => rfl
  | succ count ih =>
      rw [List.replicate_succ, writeTerms, ih, ArgvArray.letters, ArgvArray.letters,
        List.replicate_succ, List.flatten_cons]
      rfl

/-- As many terms as an `int` can count are not read back. -/
theorem fbCreateArgv_writeTerms_letters :
    Separated (List.replicate (2 ^ 31 - 1) letterTerm) ∧
    ¬∃ created, ArgvArray.fbCreateArgv .plenty
        ([] ++ writeTerms (List.replicate (2 ^ 31 - 1) letterTerm)) = .ok created ∧
      created.isSome = true ∧
      ∀ array ∈ created, ReadsBack array [] (List.replicate (2 ^ 31 - 1) letterTerm) := by
  constructor
  · intro written member
    rw [List.eq_of_mem_replicate ((List.dropLast_sublist _).subset member)]
    exact List.cons_ne_nil _ _
  · rintro ⟨created, creates, -⟩
    rw [List.nil_append, writeTerms_letters, ArgvMemory.plenty,
      ArgvArray.fbCreateArgv_overflow true (by
        rw [ArgvArray.wordStarts_letters]
        decide)] at creates
    cases creates

end Football
