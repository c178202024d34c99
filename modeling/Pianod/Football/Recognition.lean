import Pianod.Football.Grammar

/-!
# What the parser recognises

The parser has a command number for just those commands that a pattern with that number allows,
whatever the order and the batches in which the patterns were added, if and only if blanks that
share a node agree in their radix.
-/

namespace Football

open Foundation

variable {doubles : Doubles}

/-- A command that a definition's pattern allows. -/
def Defines (doubles : Doubles) (definition : ParseDefinition) (argv : List Text) : Prop :=
  Matches doubles (patternWords definition.statement) argv

instance (definition : ParseDefinition) : DecidablePred (Defines doubles definition) :=
  inferInstanceAs (DecidablePred (Matches doubles (patternWords definition.statement)))

namespace Parser

variable {parser before after : Parser doubles} {definitions : List ParseDefinition}
  {argv : List Text} {term : Text} {response : Int}

/-! ## Sorting changes no command -/

/-- Among distinct nodes the search finds the one that has the term's word. -/
theorem Distinct.find?_eq_some_iff {subcomponents : List (Parser doubles)} {found : Parser doubles}
    (distinct : Distinct subcomponents) :
    subcomponents.find? (fun found => Text.strcasecmp term found.word = .eq) = some found ↔
      found ∈ subcomponents ∧ Text.strcasecmp term found.word = .eq := by
  constructor
  · intro search
    have same := List.find?_some search
    exact ⟨List.mem_of_find?_eq_some search, of_decide_eq_true same⟩
  · rintro ⟨member, same⟩
    induction subcomponents with
    | nil => cases member
    | cons first others ih =>
        obtain ⟨apart, distinct⟩ := List.pairwise_cons.mp distinct
        rcases List.mem_cons.mp member with rfl | later
        · rw [List.find?_cons, decide_eq_true same]
        · rw [List.find?_cons_of_neg, ih distinct later]
          intro equal
          have equal := of_decide_eq_true equal
          rw [Text.strcasecmp_eq_iff] at same equal
          exact apart found later (Text.strcasecmp_eq_iff.mpr (equal.symm.trans same))

/-- A sorted tree leads where the tree leads. -/
theorem Live.descend_sorted (live : Live parser) (term : Text) :
    (fbSortAll parser).descend term = (parser.descend term).map fbSortAll := by
  cases live with
  | undetermined completes => rw [fbSortAll]; rfl
  | openend completes => rw [fbSortAll]; rfl
  | @value entry type subcomponent responds branch =>
      rw [fbSortAll, Parser.descend, Parser.descend]
      split <;> rfl
  | @keyword entry subcomponents responds distinct continues branches =>
      rw [fbSortAll, Parser.descend, Parser.descend]
      ext found
      rw [Option.map_eq_some_iff, distinct.sorted.find?_eq_some_iff, mem_sorted]
      constructor
      · rintro ⟨⟨other, member, rfl⟩, same⟩
        refine ⟨other, distinct.find?_eq_some_iff.mpr ⟨member, ?_⟩, rfl⟩
        rwa [Parser.word, entry_fbSortAll] at same
      · rintro ⟨other, search, rfl⟩
        obtain ⟨member, same⟩ := distinct.find?_eq_some_iff.mp search
        refine ⟨⟨other, member, rfl⟩, ?_⟩
        rwa [Parser.word, entry_fbSortAll]

theorem Live.takes_sorted (live : Live parser) :
    Takes (fbSortAll parser) argv response ↔ Takes parser argv response := by
  induction argv generalizing parser with
  | nil => rw [takes_nil_iff, takes_nil_iff, Parser.response, entry_fbSortAll]; rfl
  | cons term argv ih =>
      rw [takes_cons_iff, takes_cons_iff]
      constructor
      · rintro ⟨_, reads, takes⟩
        rw [live.descend_sorted] at reads
        obtain ⟨next, found, rfl⟩ := Option.map_eq_some_iff.mp reads
        exact ⟨next, found, (ih (live.descend found)).mp takes⟩
      · rintro ⟨next, reads, takes⟩
        refine ⟨fbSortAll next, ?_, (ih (live.descend reads)).mpr takes⟩
        rw [live.descend_sorted, reads]
        rfl

theorem Refused.sorted (live : Live parser) (refused : Refused parser argv) :
    Refused (fbSortAll parser) argv := by
  induction refused with
  | here refuses =>
      rw [fbSortAll]
      exact .here refuses
  | later reads refused ih =>
      refine .later ?_ (ih (live.descend reads))
      rw [live.descend_sorted, reads]
      rfl

/-! ## Runs of additions -/

/-- A tree has the numbers of just those commands that definitions allow. -/
def Recognises (parser : Parser doubles) (definitions : List ParseDefinition) : Prop :=
  ∀ argv id, Takes parser argv id ↔
    ∃ definition ∈ definitions, definition.response = id ∧ Defines doubles definition argv

/-- A tree refuses a command that a definition allows, or has a number for one that none allows. -/
def Strays (parser : Parser doubles) (definitions : List ParseDefinition) : Prop :=
  ∃ argv, (Refused parser argv ∧ ∃ definition ∈ definitions, Defines doubles definition argv) ∨
    ∃ id, Takes parser argv id ∧ ∀ definition ∈ definitions, definition.response = id →
      ¬Defines doubles definition argv

private theorem Strays.not_recognises (strays : Strays parser definitions) :
    ¬Recognises parser definitions := by
  intro recognises
  obtain ⟨argv, ⟨refused, definition, member, allowed⟩ | ⟨id, takes, none⟩⟩ := strays
  · exact refused.not_takes ((recognises argv definition.response).mpr
      ⟨definition, member, rfl, allowed⟩)
  · obtain ⟨definition, member, same, allowed⟩ := (recognises argv id).mp takes
    exact none definition member same allowed

/-- An exact addition is recognised. -/
theorem Recognises.concat {definition : ParseDefinition}
    (recognises : Recognises before definitions)
    (exactly : Exactly definition.response (Defines doubles definition) before after) :
    Recognises after (definitions ++ [definition]) := by
  intro argv id
  rw [exactly, recognises]
  constructor
  · rintro (⟨other, member, same, allowed⟩ | ⟨rfl, allowed⟩)
    · exact ⟨other, List.mem_append_left _ member, same, allowed⟩
    · exact ⟨definition, List.mem_append_right _ (List.mem_singleton_self _), rfl, allowed⟩
  · rintro ⟨other, member, same, allowed⟩
    rcases List.mem_append.mp member with old | new
    · exact .inl ⟨other, old, same, allowed⟩
    · cases List.mem_singleton.mp new
      exact .inr ⟨same.symm, allowed⟩

/-- An addition that goes astray leads the tree astray. -/
theorem Recognises.astray {definition : ParseDefinition}
    (recognises : Recognises before definitions)
    (astray : Astray definition.response (Defines doubles definition) before after) :
    Strays after (definitions ++ [definition]) := by
  obtain ⟨argv, ⟨allowed, refused⟩ | ⟨takes, untaken, undescribed⟩⟩ := astray
  · exact ⟨argv, .inl ⟨refused, definition,
      List.mem_append_right _ (List.mem_singleton_self _), allowed⟩⟩
  · refine ⟨argv, .inr ⟨definition.response, takes, fun other member same allowed => ?_⟩⟩
    rcases List.mem_append.mp member with old | new
    · exact untaken _ ((recognises argv _).mpr ⟨other, old, rfl, allowed⟩)
    · cases List.mem_singleton.mp new
      exact undescribed allowed

/-- A tree that is astray stays so. -/
theorem Strays.concat {definition : ParseDefinition} (strays : Strays before definitions)
    (added : Added definition.response (Defines doubles definition) before after) :
    Strays after (definitions ++ [definition]) := by
  obtain ⟨argv, ⟨refused, other, member, allowed⟩ | ⟨id, takes, none⟩⟩ := strays
  · exact ⟨argv, .inl ⟨added.refuses refused, other, List.mem_append_left _ member, allowed⟩⟩
  · refine ⟨argv, .inr ⟨id, added.keeps takes, fun other member same allowed => ?_⟩⟩
    rcases List.mem_append.mp member with old | new
    · exact none other old same allowed
    · cases List.mem_singleton.mp new
      exact added.new allowed takes

/-- What a run of additions leads to, beside the run that compares radices. -/
def Settles (strict : Except Fault (Parser doubles)) (after : Parser doubles)
    (definitions : List ParseDefinition) : Prop :=
  (strict = .ok after ∧ Recognises after definitions) ∨
    ((∀ other, strict ≠ .ok other) ∧ Strays after definitions)

/-- A batch of definitions is added to what was recognised before. -/
theorem run_addDefinition_settles {earlier : List ParseDefinition}
    (positive : ∀ definition ∈ definitions, 0 < definition.response)
    (nonempty : ∀ definition ∈ definitions, NonemptyAlternations definition)
    (growing : Growing before)
    (added : FallibleRun.run (addDefinition ValueType.agrees) before definitions = .ok after) :
    Growing after ∧
      (Recognises before earlier →
        Settles (FallibleRun.run (addDefinition ValueType.agreesInRadix) before definitions) after
          (earlier ++ definitions)) ∧
      (Strays before earlier → Strays after (earlier ++ definitions)) := by
  induction definitions using List.reverseRecOn generalizing after with
  | nil =>
      cases added
      rw [List.append_nil]
      exact ⟨growing, fun recognises => .inl ⟨rfl, recognises⟩, id⟩
  | append_singleton definitions definition ih =>
      obtain ⟨middle, run, last⟩ := FallibleRun.run_append_ok_iff.mp added
      obtain ⟨_, last, ⟨⟩⟩ := FallibleRun.run_cons_ok_iff.mp last
      obtain ⟨ready, settles, strays⟩ := ih
        (fun other member => positive other (List.mem_append_left _ member))
        (fun other member => nonempty other (List.mem_append_left _ member)) run
      have member : definition ∈ definitions ++ [definition] :=
        List.mem_append_right _ (List.mem_singleton_self _)
      have step := fbParserAdd_adds (positive _ member) (nonempty _ member) middle after ready last
      have grown :=
        fbParserAdd_grown ValueType.agrees (positive _ member) (nonempty _ member) middle
        after ready last
      rw [← List.append_assoc]
      refine ⟨.live grown.live, fun recognises => ?_,
        fun astray => (strays astray).concat step.added⟩
      rcases settles recognises with ⟨same, recognised⟩ | ⟨stops, astray⟩
      · rcases step.verdict with ⟨strict, exactly⟩ | ⟨stops, astray⟩
        · refine .inl ⟨FallibleRun.run_append_ok_iff.mpr ⟨middle, same, ?_⟩,
            recognised.concat exactly⟩
          exact (FallibleRun.run_cons_of_ok strict []).trans rfl
        · refine .inr ⟨fun other all => ?_, recognised.astray astray⟩
          obtain ⟨found, run', last'⟩ := FallibleRun.run_append_ok_iff.mp all
          cases same.symm.trans run'
          obtain ⟨next, last', -⟩ := FallibleRun.run_cons_ok_iff.mp last'
          exact stops next last'
      · refine .inr ⟨fun other all => ?_, astray.concat step.added⟩
        obtain ⟨found, run', -⟩ := FallibleRun.run_append_ok_iff.mp all
        exact stops found run'

/-- A tree without any definitions, or a live one. -/
def Rooted (parser : Parser doubles) : Prop := parser = fbCreateParser doubles ∨ Live parser

theorem Rooted.growing (rooted : Rooted parser) : Growing parser := by
  rcases rooted with rfl | live
  · exact growing_fresh none false
  · exact .live live

/-- Adding definitions leaves a tree rooted. -/
theorem Rooted.run {agrees : ValueType doubles → ValueType doubles → Bool}
    (positive : ∀ definition ∈ definitions, 0 < definition.response)
    (nonempty : ∀ definition ∈ definitions, NonemptyAlternations definition)
    (rooted : Rooted before)
    (added : FallibleRun.run (addDefinition agrees) before definitions = .ok after) :
    Rooted after := by
  cases definitions with
  | nil =>
      cases added
      exact rooted
  | cons definition definitions =>
      exact .inr (run_addDefinition_live positive nonempty
        (.inr ⟨rooted.growing, List.cons_ne_nil _ _⟩) added)

/-- A tree without definitions, or a live one that is sorted. -/
def Ready (parser : Parser doubles) : Prop :=
  parser = fbCreateParser doubles ∨ Live parser ∧ Sorted parser

theorem Rooted.ready (rooted : Rooted parser) : Ready (fbSortAll parser) := by
  rcases rooted with rfl | live
  · exact .inl rfl
  · exact .inr ⟨live.sorted, live.ascends⟩

theorem Ready.rooted (ready : Ready parser) : Rooted parser := ready.imp_right And.left

private theorem Rooted.recognises_sorted (rooted : Rooted parser)
    (recognises : Recognises parser definitions) : Recognises (fbSortAll parser) definitions := by
  rcases rooted with rfl | live
  · exact recognises
  · exact fun argv id => live.takes_sorted.trans (recognises argv id)

theorem Rooted.strays_sorted (rooted : Rooted parser) (strays : Strays parser definitions) :
    Strays (fbSortAll parser) definitions := by
  rcases rooted with rfl | live
  · exact strays
  · obtain ⟨argv, ⟨refused, allowed⟩ | ⟨id, takes, none⟩⟩ := strays
    · exact ⟨argv, .inl ⟨refused.sorted live, allowed⟩⟩
    · exact ⟨argv, .inr ⟨id, live.takes_sorted.mpr takes, none⟩⟩

/-- Definitions added in any batches are recognised, or the tree goes astray. -/
theorem run_addStatements_settles {batches : List (List ParseDefinition)}
    (positive : ∀ definition ∈ batches.flatten, 0 < definition.response)
    (nonempty : ∀ definition ∈ batches.flatten, NonemptyAlternations definition)
    (added : FallibleRun.run fbParserAddStatements (fbCreateParser doubles) batches = .ok parser) :
    Ready parser ∧
      Settles (FallibleRun.run (addStatements ValueType.agreesInRadix) (fbCreateParser doubles)
        batches) parser batches.flatten := by
  induction batches using List.reverseRecOn generalizing parser with
  | nil =>
      cases added
      refine ⟨.inl rfl, .inl ⟨rfl, fun argv id => iff_of_false (not_takes_fresh none false) ?_⟩⟩
      rintro ⟨definition, member, -⟩
      cases member
  | append_singleton batches batch ih =>
      rw [List.flatten_append, List.flatten_singleton] at positive nonempty ⊢
      obtain ⟨middle, run, last⟩ := FallibleRun.run_append_ok_iff.mp added
      obtain ⟨_, last, ⟨⟩⟩ := FallibleRun.run_cons_ok_iff.mp last
      obtain ⟨next, more, rfl⟩ := FallibleRun.map_ok_iff.mp last
      obtain ⟨known, settles⟩ := ih
        (fun other member => positive other (List.mem_append_left _ member))
        (fun other member => nonempty other (List.mem_append_left _ member)) run
      have grows := fun other member => positive other (List.mem_append_right _ member)
      have some := fun other member => nonempty other (List.mem_append_right _ member)
      have rooted := known.rooted.run grows some more
      obtain ⟨-, recognised, astray⟩ := @run_addDefinition_settles _ middle next batch
        batches.flatten grows some known.rooted.growing more
      refine ⟨rooted.ready, ?_⟩
      rcases settles with ⟨same, recognises⟩ | ⟨stops, strays⟩
      · rcases recognised recognises with ⟨strict, recognises⟩ | ⟨stops, strays⟩
        · refine .inl ⟨FallibleRun.run_append_ok_iff.mpr ⟨middle, same, ?_⟩,
            rooted.recognises_sorted recognises⟩
          refine (FallibleRun.run_cons_of_ok ?_ []).trans rfl
          rw [addStatements, strict]
          rfl
        · refine .inr ⟨fun other all => ?_, rooted.strays_sorted strays⟩
          obtain ⟨found, run', last'⟩ := FallibleRun.run_append_ok_iff.mp all
          cases same.symm.trans run'
          obtain ⟨sorted, last', -⟩ := FallibleRun.run_cons_ok_iff.mp last'
          obtain ⟨other', last', -⟩ := FallibleRun.map_ok_iff.mp last'
          exact stops other' last'
      · refine .inr ⟨fun other all => ?_, rooted.strays_sorted (astray strays)⟩
        obtain ⟨found, run', -⟩ := FallibleRun.run_append_ok_iff.mp all
        exact stops found run'

private theorem fbInterpret_fresh (argv : List Text) :
    (fbInterpret (fbCreateParser doubles) argv).1 ≤ 0 := by
  cases argv with
  | nil => exact ParseError.incomplete.code_nonpos
  | cons term argv => exact ParseError.extraTerms.code_nonpos

/-- The number of a command is the one that the tree has for it. -/
theorem Ready.fbInterpret_eq_iff (ready : Ready parser) (positive : 0 < response) :
    (fbInterpret parser argv).1 = response ↔ Takes parser argv response := by
  rcases ready with rfl | ⟨live, sorted⟩
  · exact iff_of_false (fun same => absurd positive
      (Int.not_lt.mpr (same.symm.le.trans (fbInterpret_fresh argv)))) (not_takes_fresh none false)
  rw [fbInterpret]
  cases arrives : (recognizer doubles).arrive parser argv with
  | none =>
      obtain ⟨error, -, refused⟩ := @fbInterpretRecurse_stops _ _ argv 0 sorted arrives
      rw [refused]
      refine iff_of_false (fun same => ?_) ?_
      · exact absurd positive (Int.not_lt.mpr (same.symm.le.trans error.code_nonpos))
      · rintro ⟨-, final, found, -⟩
        rw [arrives] at found
        cases found
  | some final =>
      rw [fbInterpretRecurse_arrives live sorted arrives]
      constructor
      · intro same
        refine ⟨positive, final, arrives, ?_⟩
        split at same
        · exact same
        · exact absurd (same.symm.le.trans ParseError.incomplete.code_nonpos)
            (Int.not_le.mpr positive)
      · rintro ⟨-, other, found, same⟩
        cases arrives.symm.trans found
        rw [same, if_pos positive.ne']

end Parser

/-! ## The parser and the grammar -/

/-- The parser has a number for just the commands that definitions with it allow, and no command is
allowed under two numbers. -/
structure RecognisesGrammar (parser : Parser doubles) (definitions : List ParseDefinition) :
    Prop where
  exact : ∀ argv (response : Int), 0 < response → ((fbInterpret parser argv).1 = response ↔
    ∃ definition ∈ definitions, definition.response = response ∧ Defines doubles definition argv)
  unique : ∀ argv, ∀ first ∈ definitions, ∀ second ∈ definitions, Defines doubles first argv →
    Defines doubles second argv → first.response = second.response

/-- Definitions that are accepted, in any batches, are recognised if and only if they would still be
accepted if blanks that share a node had to agree in their radix. -/
theorem recognisesGrammar_iff {batches : List (List ParseDefinition)} {parser : Parser doubles}
    (positive : ∀ definition ∈ batches.flatten, 0 < definition.response)
    (nonempty : ∀ definition ∈ batches.flatten, NonemptyAlternations definition)
    (added : FallibleRun.run fbParserAddStatements (fbCreateParser doubles) batches = .ok parser) :
    RecognisesGrammar parser batches.flatten ↔
      ∃ other, FallibleRun.run (addStatements ValueType.agreesInRadix) (fbCreateParser doubles)
        batches = .ok other := by
  obtain ⟨ready, settles⟩ := Parser.run_addStatements_settles positive nonempty added
  rcases settles with ⟨same, recognises⟩ | ⟨stops, strays⟩
  · refine iff_of_true ⟨fun argv response above => ?_, ?_⟩ ⟨parser, same⟩
    · rw [ready.fbInterpret_eq_iff above, recognises]
    · intro argv first member second member' allowed allowed'
      have taken := (recognises argv first.response).mpr ⟨first, member, rfl, allowed⟩
      exact taken.unique ((recognises argv second.response).mpr ⟨second, member', rfl, allowed'⟩)
  · refine iff_of_false (fun grammar => strays.not_recognises fun argv id => ?_)
      fun ⟨other, accepted⟩ => stops other accepted
    constructor
    · intro taken
      rwa [← grammar.exact argv id taken.1, ready.fbInterpret_eq_iff taken.1]
    · rintro ⟨definition, member, rfl, allowed⟩
      have above := positive definition member
      rw [← ready.fbInterpret_eq_iff above, grammar.exact argv _ above]
      exact ⟨definition, member, rfl, allowed⟩

theorem recognisesGrammar_samplePlay : ∃ parser,
    FallibleRun.run fbParserAddStatements (fbCreateParser noDoubles) [samplePlay] = .ok parser ∧
      RecognisesGrammar parser samplePlay := by
  obtain ⟨parser, added⟩ : ∃ parser,
      FallibleRun.run fbParserAddStatements (fbCreateParser noDoubles) [samplePlay] = .ok parser :=
    ⟨_, rfl⟩
  refine ⟨parser, added, (@recognisesGrammar_iff _ [samplePlay] parser ?_ ?_ added).mpr ⟨_, rfl⟩⟩
  · decide
  · unfold NonemptyAlternations
    decide

/-- Two ranges that are the same but for the radix in which they are read. -/
def sampleRadix : List ParseDefinition :=
  [⟨1, ascii "a \x7b#v:1-10\x7d x"⟩, ⟨2, ascii "a \x7b#v:01-10\x7d y"⟩]

/-- The second of the two patterns allows a number that the parser reads with the first's radix. -/
theorem recognisesGrammar_sampleRadix : ∃ parser,
    FallibleRun.run fbParserAddStatements (fbCreateParser noDoubles) [sampleRadix] = .ok parser ∧
      ¬RecognisesGrammar parser sampleRadix := by
  obtain ⟨parser, added, refused⟩ : ∃ parser,
      FallibleRun.run fbParserAddStatements (fbCreateParser noDoubles) [sampleRadix] = .ok parser ∧
        (fbInterpret parser [ascii "a", ascii "0x5", ascii "y"]).1 = ParseError.numeric.code :=
    ⟨_, rfl, rfl⟩
  refine ⟨parser, added, fun grammar => ?_⟩
  have allowed : ∃ definition ∈ sampleRadix, definition.response = 2 ∧
      Defines noDoubles definition [ascii "a", ascii "0x5", ascii "y"] := by decide
  have number := (grammar.exact _ 2 (by decide)).mpr allowed
  rw [refused] at number
  cases number

end Football
