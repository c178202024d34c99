import Pianod.Football.Grammar

/-!
# Fixed patterns

Where only the last word of a pattern can be left out, the words and the terms of a command go
together one by one.
-/

namespace Football

open Foundation

/-- A pattern of which only the last word can be left out. -/
def Fixed : List Text → Prop
  | [] => True
  | word :: pattern =>
      word ≠ ellipsis ∧
        (if isOptionalBlank word then pattern = [] else isBlank word ∨ ¬isOptional word) ∧
        Fixed pattern

@[reducible]
def decidableFixed : DecidablePred Fixed
  | [] => .isTrue trivial
  | word :: pattern =>
      have : Decidable (Fixed pattern) := decidableFixed pattern
      inferInstanceAs (Decidable (word ≠ ellipsis ∧
        (if isOptionalBlank word then pattern = [] else isBlank word ∨ ¬isOptional word) ∧
        Fixed pattern))

instance : DecidablePred Fixed := decidableFixed

/-- The number of words that cannot be left out. -/
def leastTerms (pattern : List Text) : Nat :=
  (pattern.filter fun word => !isOptionalBlank word).length

/-- The terms that a word of a fixed pattern stands for. -/
def StandsFor (doubles : Doubles) (word term : Text) : Prop :=
  if isOptionalBlank word then BlankAccepts doubles (insideBrackets word) term
  else if isBlank word then BlankAccepts doubles word term
  else if isAlternation word then OneOf (choiceWords word) term
  else Text.strcasecmp term word = .eq

variable {doubles : Doubles}

/-- A word that cannot be left out leads on to the rest of a fixed pattern. -/
theorem Fixed.leads {word : Text} {pattern argv : List Text} (fixed : Fixed (word :: pattern))
    (needed : isOptionalBlank word = false) (allowed : Matches doubles (word :: pattern) argv) :
    Leads (StandsFor doubles word) (Matches doubles pattern) argv := by
  obtain ⟨definite, kept, -⟩ := fixed
  unfold StandsFor
  rw [Matches] at allowed
  rw [needed] at kept allowed ⊢
  simp only [Bool.false_eq_true, if_false, if_neg definite] at kept allowed ⊢
  by_cases blank : isBlank word
  · simp only [if_pos blank] at allowed ⊢
    exact allowed
  · simp only [if_neg blank, if_neg (kept.resolve_left blank)] at allowed ⊢
    split at allowed
    · rename_i alternation
      simp only [if_pos alternation]
      exact allowed
    · rename_i keyword
      simp only [if_neg keyword]
      exact allowed

/-- The words of a fixed pattern stand for the terms of the commands that it allows. -/
theorem Matches.aligned {pattern argv : List Text} (allowed : Matches doubles pattern argv)
    (fixed : Fixed pattern) : leastTerms pattern ≤ argv.length ∧ argv.length ≤ pattern.length ∧
      ∀ (index : Nat) (word term : Text), pattern[index]? = some word → argv[index]? = some term →
        StandsFor doubles word term := by
  induction pattern generalizing argv with
  | nil =>
      cases allowed
      exact ⟨le_rfl, le_rfl, fun index word term listed => by cases listed⟩
  | cons word pattern ih =>
      cases needed : isOptionalBlank word with
      | false =>
          obtain ⟨term, rest, rfl, accepted, onward⟩ := fixed.leads needed allowed
          obtain ⟨least, most, each⟩ := ih onward fixed.2.2
          rw [leastTerms, List.filter_cons_of_pos (by rw [needed]; rfl)]
          refine ⟨Nat.succ_le_succ least, Nat.succ_le_succ most, fun index other given => ?_⟩
          cases index with
          | zero =>
              rintro ⟨⟩ ⟨⟩
              exact accepted
          | succ index => exact each index other given
      | true =>
          have last : pattern = [] := by
            have kept := fixed.2.1
            rwa [if_pos needed] at kept
          subst last
          rw [Matches, if_pos needed] at allowed
          rw [leastTerms, List.filter_cons_of_neg (by rw [needed]; exact Bool.false_ne_true)]
          rcases allowed with rfl | ⟨term, rest, rfl, accepted, rfl⟩
          · exact ⟨le_rfl, Nat.zero_le _, fun index other given _ absent => by cases absent⟩
          · refine ⟨Nat.zero_le _, le_rfl, fun index other given => ?_⟩
            cases index with
            | zero =>
                rintro ⟨⟩ ⟨⟩
                rw [StandsFor, if_pos needed]
                exact accepted
            | succ index =>
                intro _ absent
                cases absent

end Football
