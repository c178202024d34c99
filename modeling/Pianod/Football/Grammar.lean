import Pianod.Football.ParseErrors

/-!
# The declared grammar

A pattern describes the commands that it allows.  Adding a pattern to a tree makes the tree take
just those as well, unless a blank of the pattern gets a node that reads numbers with another radix.
-/

namespace Football

open Foundation

/-- Some first term and the terms after it. -/
def Leads (accepts : Text → Prop) (onward : List Text → Prop) (argv : List Text) : Prop :=
  ∃ term rest, argv = term :: rest ∧ accepts term ∧ onward rest

/-- The terms that a blank stands for. -/
def BlankAccepts (doubles : Doubles) (blankname term : Text) : Prop :=
  ∃ type, blankType doubles blankname = .ok type ∧ type.accepts term = true

/-- One of several keywords. -/
def OneOf (words : List Text) (term : Text) : Prop :=
  ∃ word ∈ words, Text.strcasecmp term word = .eq

/-- The commands that a pattern allows. -/
def Matches (doubles : Doubles) : List Text → List Text → Prop
  | [], argv => argv = []
  | word :: pattern, argv =>
      if isOptionalBlank word then
        argv = [] ∨
        Leads (BlankAccepts doubles (insideBrackets word)) (Matches doubles pattern) argv
      else if word = ellipsis then True
      else if isBlank word then Leads (BlankAccepts doubles word) (Matches doubles pattern) argv
      else if isOptional word then
        Matches doubles pattern argv ∨
        Leads (OneOf (choiceWords word)) (Matches doubles pattern) argv
      else if isAlternation word then
        Leads (OneOf (choiceWords word)) (Matches doubles pattern) argv
      else Leads (Text.strcasecmp · word = .eq) (Matches doubles pattern) argv

variable {doubles : Doubles}

instance (accepts : Text → Prop) (onward : List Text → Prop) [DecidablePred accepts]
    [DecidablePred onward] : DecidablePred (Leads accepts onward)
  | [] => .isFalse fun ⟨_, _, same, _⟩ => nomatch same
  | term :: rest => decidable_of_iff (accepts term ∧ onward rest)
      ⟨fun ⟨accepted, rest_on⟩ => ⟨term, rest, rfl, accepted, rest_on⟩, by
        rintro ⟨_, _, ⟨⟩, accepted, rest_on⟩
        exact ⟨accepted, rest_on⟩⟩

instance (blankname : Text) : DecidablePred (BlankAccepts doubles blankname) := fun term =>
  match read : blankType doubles blankname with
  | .error _ => .isFalse fun ⟨_, found, _⟩ => nomatch read.symm.trans found
  | .ok type => decidable_of_iff (type.accepts term = true)
      ⟨fun accepted => ⟨type, read, accepted⟩, by
        rintro ⟨other, found, accepted⟩
        cases read.symm.trans found
        exact accepted⟩

instance (words : List Text) : DecidablePred (OneOf words) := fun term =>
  inferInstanceAs (Decidable (∃ word ∈ words, Text.strcasecmp term word = .eq))

/-- Whether a pattern allows a command. -/
@[reducible]
def decidableMatches : (pattern : List Text) → DecidablePred (Matches doubles pattern)
  | [] => fun argv => inferInstanceAs (Decidable (argv = []))
  | word :: pattern => fun argv =>
      have : DecidablePred (Matches doubles pattern) := decidableMatches pattern
      inferInstanceAs (Decidable (if isOptionalBlank word then
          argv = [] ∨ Leads (BlankAccepts doubles (insideBrackets word)) (Matches doubles pattern)
            argv
        else if word = ellipsis then True
        else if isBlank word then Leads (BlankAccepts doubles word) (Matches doubles pattern) argv
        else if isOptional word then
          Matches doubles pattern argv ∨
            Leads (OneOf (choiceWords word)) (Matches doubles pattern) argv
        else if isAlternation word then
          Leads (OneOf (choiceWords word)) (Matches doubles pattern) argv
        else Leads (Text.strcasecmp · word = .eq) (Matches doubles pattern) argv))

instance (pattern : List Text) : DecidablePred (Matches doubles pattern) := decidableMatches pattern

/-- Whether two blanks agree in their radix as well. -/
def ValueType.agreesInRadix (known type : ValueType doubles) : Bool :=
  known.agrees type && decide (known.radix = type.radix)

namespace Parser

/-- A command is complete as a number where its terms lead. -/
def Takes (parser : Parser doubles) (argv : List Text) (response : Int) : Prop :=
  0 < response ∧ ∃ final, (recognizer doubles).arrive parser argv = some final ∧
    final.response = response

/-- A command that some blank on its way refuses. -/
inductive Refused : Parser doubles → List Text → Prop
  | here {entry : ParserEntry} {type : ValueType doubles} {subcomponent : Parser doubles}
      {term : Text} {argv : List Text} (refuses : type.accepts term = false) :
      Refused (.value entry type subcomponent) (term :: argv)
  | later {parser next : Parser doubles} {term : Text} {argv : List Text}
      (reads : parser.descend term = some next) (refused : Refused next argv) :
      Refused parser (term :: argv)

variable {parser : Parser doubles} {argv : List Text} {term : Text} {response : Int}

theorem takes_nil_iff : Takes parser [] response ↔ 0 < response ∧ parser.response = response := by
  constructor
  · rintro ⟨positive, _, ⟨⟩, same⟩
    exact ⟨positive, same⟩
  · rintro ⟨positive, same⟩
    exact ⟨positive, parser, rfl, same⟩

theorem takes_cons_iff : Takes parser (term :: argv) response ↔
    ∃ next, parser.descend term = some next ∧ Takes next argv response := by
  constructor
  · rintro ⟨positive, final, arrives, same⟩
    obtain ⟨next, reads, onward⟩ := Option.bind_eq_some_iff.mp arrives
    exact ⟨next, reads, positive, final, onward, same⟩
  · rintro ⟨next, reads, positive, final, onward, same⟩
    exact ⟨positive, final, Option.bind_eq_some_iff.mpr ⟨next, reads, onward⟩, same⟩

/-- A command has one number at most. -/
theorem Takes.unique {other : Int} (first : Takes parser argv response)
    (second : Takes parser argv other) : response = other := by
  obtain ⟨-, final, arrives, rfl⟩ := first
  obtain ⟨-, final', arrives', rfl⟩ := second
  cases arrives.symm.trans arrives'
  rfl

theorem not_takes_fresh (word : Option Text) (isNamed : Bool) :
    ¬Takes (fresh word isNamed : Parser doubles) argv response := by
  cases argv with
  | nil =>
      rintro ⟨positive, _, ⟨⟩, rfl⟩
      exact absurd positive (lt_irrefl 0)
  | cons term argv =>
      rw [takes_cons_iff]
      rintro ⟨next, ⟨⟩, -⟩

theorem Refused.not_takes (refused : Refused parser argv) : ¬Takes parser argv response := by
  induction refused with
  | here refuses =>
      rw [takes_cons_iff]
      rintro ⟨next, reads, -⟩
      rw [descend, refuses] at reads
      cases reads
  | later reads refused ih =>
      rw [takes_cons_iff]
      rintro ⟨next, reads', takes⟩
      cases reads.symm.trans reads'
      exact ih takes

/-! ## What an addition does -/

/-- Commands stay what they were, the added ones are new, and one of them is taken. -/
structure Added (response : Int) (language : List Text → Prop) (before after : Parser doubles) :
    Prop where
  keeps : ∀ {argv id}, Takes before argv id → Takes after argv id
  refuses : ∀ {argv}, Refused before argv → Refused after argv
  new : ∀ {argv id}, language argv → ¬Takes before argv id
  some : ∃ argv, language argv ∧ Takes after argv response

/-- Just the added commands are taken in addition. -/
def Exactly (response : Int) (language : List Text → Prop) (before after : Parser doubles) : Prop :=
  ∀ argv id, Takes after argv id ↔ Takes before argv id ∨ id = response ∧ language argv

/-- An added command is refused, or one is taken that was not added. -/
def Astray (response : Int) (language : List Text → Prop) (before after : Parser doubles) : Prop :=
  ∃ argv, (language argv ∧ Refused after argv) ∨
    (Takes after argv response ∧ (∀ id, ¬Takes before argv id) ∧ ¬language argv)

/-- An addition is exact if it can be made with blanks that agree in their radix, too. -/
def Verdict (response : Int) (language : List Text → Prop)
    (strict : Except Fault (Parser doubles)) (before after : Parser doubles) : Prop :=
  (strict = .ok after ∧ Exactly response language before after) ∨
    ((∀ other, strict ≠ .ok other) ∧ Astray response language before after)

section

variable {before middle after : Parser doubles} {language also : List Text → Prop}

/-- Two additions of one number make one. -/
theorem Added.trans (first : Added response language before middle)
    (second : Added response also middle after) :
    Added response (fun argv => language argv ∨ also argv) before after where
  keeps := fun takes => second.keeps (first.keeps takes)
  refuses := fun refused => second.refuses (first.refuses refused)
  new := by
    rintro argv id (one | two) takes
    · exact first.new one takes
    · exact second.new two (first.keeps takes)
  some := by
    obtain ⟨argv, described, takes⟩ := first.some
    exact ⟨argv, .inl described, second.keeps takes⟩

theorem Exactly.trans (first : Exactly response language before middle)
    (second : Exactly response also middle after) :
    Exactly response (fun argv => language argv ∨ also argv) before after := by
  intro argv id
  rw [second, first, or_assoc, and_or_left]

/-- An addition that goes astray still does so after another one. -/
theorem Astray.trans (first : Astray response language before middle)
    (second : Added response also middle after) :
    Astray response (fun argv => language argv ∨ also argv) before after := by
  obtain ⟨argv, ⟨described, refused⟩ | ⟨takes, untaken, undescribed⟩⟩ := first
  · exact ⟨argv, .inl ⟨.inl described, second.refuses refused⟩⟩
  · refine ⟨argv, .inr ⟨second.keeps takes, untaken, ?_⟩⟩
    rintro (one | two)
    · exact undescribed one
    · exact second.new two takes

/-- An addition after an exact one can go astray. -/
theorem Exactly.astray (first : Exactly response language before middle)
    (second : Astray response also middle after) :
    Astray response (fun argv => language argv ∨ also argv) before after := by
  obtain ⟨argv, ⟨described, refused⟩ | ⟨takes, untaken, undescribed⟩⟩ := second
  · exact ⟨argv, .inl ⟨.inr described, refused⟩⟩
  · refine ⟨argv, .inr ⟨takes, fun id taken => untaken id ((first argv id).mpr (.inl taken)), ?_⟩⟩
    rintro (one | two)
    · exact untaken response ((first argv response).mpr (.inr ⟨rfl, one⟩))
    · exact undescribed two

end

/-! ## An addition behind one term -/

/-- A node before and after something was added to the node that some terms lead to. -/
structure Edge (passes : Text → Prop) (child grown before after : Parser doubles) : Prop where
  ends : ∀ id, Takes after [] id ↔ Takes before [] id
  earlier : ∀ {term argv id}, passes term →
    (Takes before (term :: argv) id ↔ Takes child argv id)
  through : ∀ {term argv id}, passes term →
    (Takes after (term :: argv) id ↔ Takes grown argv id)
  others : ∀ {term argv id}, ¬passes term →
    (Takes after (term :: argv) id ↔ Takes before (term :: argv) id)
  refused : ∀ {term argv}, passes term → Refused before (term :: argv) → Refused child argv
  refuses : ∀ {term argv}, passes term → Refused grown argv → Refused after (term :: argv)
  refusedElse : ∀ {term argv}, ¬passes term → Refused before (term :: argv) →
    Refused after (term :: argv)

namespace Edge

variable {passes accepts : Text → Prop} {child grown before after : Parser doubles}
  {language : List Text → Prop}

/-- What is added behind a term is added behind the terms that lead there. -/
theorem added (edge : Edge passes child grown before after)
    (addition : Added response language child grown) (common : ∃ term, passes term ∧ accepts term)
    (unlisted : ∀ {term argv id}, ¬passes term → accepts term → ¬Takes before (term :: argv) id) :
    Added response (Leads accepts language) before after where
  keeps := by
    intro argv id takes
    cases argv with
    | nil => exact (edge.ends id).mpr takes
    | cons term argv =>
        by_cases passed : passes term
        · exact (edge.through passed).mpr (addition.keeps ((edge.earlier passed).mp takes))
        · exact (edge.others passed).mpr takes
  refuses := by
    intro argv refused
    cases argv with
    | nil => cases refused
    | cons term argv =>
        by_cases passed : passes term
        · exact edge.refuses passed (addition.refuses (edge.refused passed refused))
        · exact edge.refusedElse passed refused
  new := by
    rintro _ id ⟨term, argv, rfl, accepted, described⟩ takes
    by_cases passed : passes term
    · exact addition.new described ((edge.earlier passed).mp takes)
    · exact unlisted passed accepted takes
  some := by
    obtain ⟨term, passed, accepted⟩ := common
    obtain ⟨argv, described, takes⟩ := addition.some
    exact ⟨term :: argv, ⟨term, argv, rfl, accepted, described⟩, (edge.through passed).mpr takes⟩

/-- An exact addition behind a term is exact if just the terms that lead there are described. -/
theorem exactly (edge : Edge passes child grown before after)
    (addition : Exactly response language child grown)
    (same : ∀ term, passes term ↔ accepts term) :
    Exactly response (Leads accepts language) before after := by
  intro argv id
  cases argv with
  | nil =>
      rw [edge.ends]
      refine (or_iff_left ?_).symm
      rintro ⟨-, _, _, ⟨⟩, -⟩
  | cons term argv =>
      have leads : Leads accepts language (term :: argv) ↔ accepts term ∧ language argv := by
        constructor
        · rintro ⟨_, _, ⟨⟩, accepted, described⟩
          exact ⟨accepted, described⟩
        · exact fun ⟨accepted, described⟩ => ⟨term, argv, rfl, accepted, described⟩
      rw [leads]
      by_cases passed : passes term
      · rw [edge.through passed, addition, edge.earlier passed,
          and_iff_right ((same term).mp passed)]
      · rw [edge.others passed]
        exact (or_iff_left fun found => passed ((same term).mpr found.2.1)).symm

/-- An addition behind a term goes astray with the one that is made there. -/
theorem astray (edge : Edge passes child grown before after)
    (addition : Astray response language child grown)
    (common : ∃ term, passes term ∧ accepts term) :
    Astray response (Leads accepts language) before after := by
  obtain ⟨term, passed, accepted⟩ := common
  obtain ⟨argv, ⟨described, refused⟩ | ⟨takes, untaken, undescribed⟩⟩ := addition
  · exact ⟨term :: argv, .inl ⟨⟨term, argv, rfl, accepted, described⟩,
      edge.refuses passed refused⟩⟩
  · refine ⟨term :: argv, .inr ⟨(edge.through passed).mpr takes, fun id taken =>
      untaken id ((edge.earlier passed).mp taken), ?_⟩⟩
    rintro ⟨_, _, ⟨⟩, -, described⟩
    exact undescribed described

/-- A term that leads on without being described, or the other way round, leads astray. -/
theorem astray_of_telling (edge : Edge passes child grown before after)
    (addition : Added response language child grown) {term : Text}
    (telling : ¬(passes term ↔ accepts term))
    (unread : ¬passes term → ∀ argv, Refused after (term :: argv)) :
    Astray response (Leads accepts language) before after := by
  obtain ⟨argv, described, takes⟩ := addition.some
  by_cases passed : passes term
  · have undescribed : ¬accepts term := fun accepted => telling (iff_of_true passed accepted)
    refine ⟨term :: argv, .inr ⟨(edge.through passed).mpr takes, fun id taken => ?_, ?_⟩⟩
    · exact addition.new described ((edge.earlier passed).mp taken)
    · rintro ⟨_, _, ⟨⟩, accepted, -⟩
      exact undescribed accepted
  · have accepted : accepts term := by
      by_contra unaccepted
      exact telling (iff_of_false passed unaccepted)
    exact ⟨term :: argv, .inl ⟨⟨term, argv, rfl, accepted, described⟩, unread passed argv⟩⟩

end Edge

/-! ## Keywords -/

section

variable {entry : ParserEntry} {subcomponents : List (Parser doubles)} {keyword : Text}

private theorem find?_set_of_not {α : Type*} {items : List α} {index : Nat} {old new : α}
    {found : α → Bool} (there : items[index]? = some old) (before : found old = false)
    (after : found new = false) :
    (items.set index new).find? found = items.find? found := by
  induction items generalizing index with
  | nil => rfl
  | cons item items ih =>
      cases index with
      | zero =>
          cases there
          rw [List.set_cons_zero, List.find?_cons, List.find?_cons, before, after]
      | succ index =>
          rw [List.set_cons_succ, List.find?_cons, List.find?_cons, ih there]

/-- Terms that differ in case only lead to the same node. -/
theorem descend_keyword_congr {first second : Text}
    (same : Text.strcasecmp first second = .eq) :
    (Parser.keyword entry subcomponents).descend first =
      (Parser.keyword entry subcomponents).descend second := by
  rw [descend, descend]
  congr 1
  funext found
  rw [Text.strcasecmp_eq_iff] at same
  simp [same]

theorem takes_cons_of_descend {argv : List Text} {id : Int} {child : Parser doubles}
    (reads : parser.descend term = some child) :
    Takes parser (term :: argv) id ↔ Takes child argv id := by
  rw [takes_cons_iff, reads]
  constructor
  · rintro ⟨_, ⟨⟩, takes⟩
    exact takes
  · exact fun takes => ⟨child, rfl, takes⟩

/-- What adding a keyword does to a node: the node that the keyword leads to grows. -/
structure KeywordStep (entry : ParserEntry) (subcomponents : List (Parser doubles)) (keyword : Text)
    (name : Option Text) (child grown after : Parser doubles) : Prop where
  growing : Growing child
  earlier : (Parser.keyword entry subcomponents).descend keyword = some child ∨
    (Parser.keyword entry subcomponents).descend keyword = none ∧
      child = fresh (some keyword) name.isSome
  through : after.descend keyword = some grown
  others : ∀ term, Text.strcasecmp term keyword ≠ .eq →
    after.descend term = (Parser.keyword entry subcomponents).descend term
  keywords : ∃ entry' subcomponents', after = .keyword entry' subcomponents' ∧
    entry'.response = entry.response
  same : ∀ add : Parser doubles → Except Fault (Parser doubles), add child = .ok grown →
    fbParserAddKeyword entry subcomponents keyword name add = .ok after
  stops : ∀ add : Parser doubles → Except Fault (Parser doubles),
    (∀ other, add child ≠ .ok other) →
      ∀ other, fbParserAddKeyword entry subcomponents keyword name add ≠ .ok other

theorem map_ne_ok {α β : Type*} {result : Except Fault α} (change : α → β)
    (stops : ∀ other, result ≠ .ok other) (other : β) : result.map change ≠ .ok other := by
  intro same
  obtain ⟨value, found, -⟩ := FallibleRun.map_ok_iff.mp same
  exact stops value found

theorem fbParserAddKeyword_missed {name : Option Text}
    (agreed : ¬nameConflict entry.name name = true)
    (missed : (subcomponents.findIdx? fun found => Text.strcasecmp keyword found.word = .eq) = none)
    (add : Parser doubles → Except Fault (Parser doubles)) :
    fbParserAddKeyword entry subcomponents keyword name add =
      (add (.fresh (some keyword) name.isSome)).map fun found =>
        .keyword { entry with name := entry.name.or name } (subcomponents ++ [found]) := by
  rw [fbParserAddKeyword, if_neg agreed]
  dsimp only
  rw [missed]

/-- A keyword that a node has already leads to the node that grows. -/
theorem fbParserAddKeyword_found {name : Option Text} {index : Nat} {found : Parser doubles}
    (agreed : ¬nameConflict entry.name name = true)
    (search : (subcomponents.findIdx? fun found => Text.strcasecmp keyword found.word = .eq) =
      some index) (there : subcomponents[index]? = some found)
    (named : ¬found.entry.isNamed ≠ name.isSome)
    (add : Parser doubles → Except Fault (Parser doubles)) :
    fbParserAddKeyword entry subcomponents keyword name add =
      (add found).map fun found =>
        .keyword { entry with name := entry.name.or name } (subcomponents.set index found) := by
  rw [fbParserAddKeyword, if_neg agreed]
  dsimp only
  rw [search]
  dsimp only
  rw [there]
  dsimp only
  rw [if_neg named]

/-- Where a keyword leads before and after it is added. -/
theorem keywordStep {name : Option Text} {add : Parser doubles → Except Fault (Parser doubles)}
    {after : Parser doubles} (grows : Grows add) (branches : ∀ found ∈ subcomponents, Live found)
    (added : fbParserAddKeyword entry subcomponents keyword name add = .ok after) :
    ∃ child grown, add child = .ok grown ∧
      KeywordStep entry subcomponents keyword name child grown after := by
  rw [fbParserAddKeyword] at added
  split at added
  · cases added
  · rename_i agreed
    dsimp only at added
    split at added
    · rename_i missed
      obtain ⟨grown, grew, rfl⟩ := FallibleRun.map_ok_iff.mp added
      have fresh := @growing_fresh doubles (some keyword) name.isSome
      have word : grown.word = keyword := by
        rw [Parser.word, (grows _ _ fresh grew).word]
        rfl
      have absent : (subcomponents.find? fun found => Text.strcasecmp keyword found.word = .eq) =
          none := by
        rw [List.find?_eq_none]
        intro found member equal
        exact absurd equal (Bool.eq_false_iff.mp (List.findIdx?_eq_none_iff.mp missed found member))
      refine ⟨_, grown, grew, fresh, .inr ⟨absent, rfl⟩, ?_, fun term other => ?_,
        ⟨_, _, rfl, rfl⟩, fun strict same => ?_, fun strict stops => ?_⟩
      · rw [descend, List.find?_append, absent, Option.none_or, List.find?_singleton, word,
          if_pos (decide_eq_true (Text.strcasecmp_self keyword))]
      · rw [descend, descend, List.find?_append, List.find?_singleton, word,
          if_neg (by simpa using other), Option.or_none]
      · rw [fbParserAddKeyword_missed agreed missed, same]
        rfl
      · rw [fbParserAddKeyword_missed agreed missed]
        exact map_ne_ok _ stops
    · rename_i index search
      split at added
      · cases added
      · rename_i found there
        split at added
        · cases added
        · rename_i named
          obtain ⟨grown, grew, rfl⟩ := FallibleRun.map_ok_iff.mp added
          have growing : Growing found := .live (branches found (List.mem_of_getElem? there))
          have word : grown.word = found.word := by
            rw [Parser.word, (grows _ _ growing grew).word]
            rfl
          obtain ⟨inside, equal, first⟩ := List.findIdx?_eq_some_iff_getElem.mp search
          obtain ⟨_, rfl⟩ := List.getElem?_eq_some_iff.mp there
          have apart {term : Text} (other : Text.strcasecmp term keyword ≠ .eq) :
              decide (Text.strcasecmp term subcomponents[index].word = .eq) = false := by
            rw [decide_eq_false_iff_not]
            intro same
            have same' := of_decide_eq_true equal
            rw [Text.strcasecmp_eq_iff] at same same'
            exact other (Text.strcasecmp_eq_iff.mpr (same.trans same'.symm))
          refine ⟨_, grown, grew, growing, .inl ?_, ?_, fun term other => ?_,
            ⟨_, _, rfl, rfl⟩, fun strict same => ?_, fun strict stops => ?_⟩
          · rw [descend, List.find?_eq_some_iff_getElem]
            refine ⟨equal, index, inside, rfl, fun place before => ?_⟩
            simpa using first place before
          · rw [descend, List.find?_eq_some_iff_getElem]
            refine ⟨?_, index, ?_, ?_, fun place before => ?_⟩
            · rw [word]
              exact equal
            · rw [List.length_set]
              exact inside
            · exact List.getElem_set_self _
            · rw [List.getElem_set_ne (by omega)]
              simpa using first place before
          · rw [descend, descend]
            refine find?_set_of_not there (apart other) ?_
            rw [word]
            exact apart other
          · rw [fbParserAddKeyword_found agreed search there named, same]
            rfl
          · rw [fbParserAddKeyword_found agreed search there named]
            exact map_ne_ok _ stops

/-- Adding a keyword is an addition behind the terms that spell it. -/
theorem KeywordStep.edge {name : Option Text} {child grown after : Parser doubles}
    (step : KeywordStep entry subcomponents keyword name child grown after) :
    Edge (Text.strcasecmp · keyword = .eq) child grown (.keyword entry subcomponents) after := by
  obtain ⟨entry', subcomponents', rfl, response⟩ := step.keywords
  have through {term : Text} (spelled : Text.strcasecmp term keyword = .eq) :
      (Parser.keyword entry' subcomponents').descend term = some grown :=
    (descend_keyword_congr spelled).trans step.through
  refine ⟨fun id => ?_, fun spelled => ?_, fun spelled => takes_cons_of_descend (through spelled),
    fun other => ?_, fun spelled refused => ?_, fun spelled refused =>
      .later (through spelled) refused, fun other refused => ?_⟩
  · rw [takes_nil_iff, takes_nil_iff]
    exact and_congr_right fun _ => Eq.congr_left response
  · rcases step.earlier with there | ⟨missing, rfl⟩
    · exact takes_cons_of_descend ((descend_keyword_congr spelled).trans there)
    · refine iff_of_false ?_ (not_takes_fresh _ _)
      rw [takes_cons_iff, descend_keyword_congr spelled, missing]
      rintro ⟨_, ⟨⟩, -⟩
  · rw [takes_cons_iff, takes_cons_iff, step.others _ other]
  · cases refused with
    | later reads refused =>
        rw [descend_keyword_congr spelled] at reads
        rcases step.earlier with there | ⟨missing, -⟩
        · cases there.symm.trans reads
          exact refused
        · cases missing.symm.trans reads
  · cases refused with
    | later reads refused => exact .later ((step.others _ other).trans reads) refused

end

/-! ## Blanks -/

/-- What adding a blank does to a node: the node that its terms lead to grows. -/
structure FillInStep (blankname : Text) (type known : ValueType doubles)
    (child grown before after : Parser doubles) : Prop where
  growing : Growing child
  read : blankType doubles blankname = .ok type
  alike : ValueType.Alike known type
  edge : Edge (fun term => known.accepts term = true) child grown before after
  unread : ∀ {term argv id}, ¬known.accepts term = true → ¬Takes before (term :: argv) id
  refuses : ∀ {term argv}, ¬known.accepts term = true → Refused after (term :: argv)
  same : known.radix = type.radix → ∀ add : Parser doubles → Except Fault (Parser doubles),
    add child = .ok grown →
      fbParserAddFillIn ValueType.agreesInRadix before blankname add = .ok after
  stops : known.radix = type.radix → ∀ add : Parser doubles → Except Fault (Parser doubles),
    (∀ other, add child ≠ .ok other) →
      ∀ other, fbParserAddFillIn ValueType.agreesInRadix before blankname add ≠ .ok other
  differs : known.radix ≠ type.radix → ∀ add : Parser doubles → Except Fault (Parser doubles),
    ∀ other, fbParserAddFillIn ValueType.agreesInRadix before blankname add ≠ .ok other

theorem descend_value {entry : ParserEntry} {type : ValueType doubles}
    {child : Parser doubles} {term : Text} (accepted : type.accepts term = true) :
    (Parser.value entry type child).descend term = some child := if_pos accepted

/-- Something was added to the node that the terms of a blank lead to. -/
theorem edge_value {entry : ParserEntry} {type : ValueType doubles} {child grown : Parser doubles} :
    Edge (fun term => type.accepts term = true) child grown (.value entry type child)
      (.value entry type grown) where
  ends := fun id => by rw [takes_nil_iff, takes_nil_iff]; rfl
  earlier := fun accepted => takes_cons_of_descend (descend_value accepted)
  through := fun accepted => takes_cons_of_descend (descend_value accepted)
  others := fun refused => by
    rw [takes_cons_iff, takes_cons_iff, descend, descend, if_neg refused, if_neg refused]
  refused := fun accepted refused => by
    cases refused with
    | here refuses => exact absurd accepted (Bool.eq_false_iff.mp refuses)
    | later reads refused =>
        rw [descend_value accepted] at reads
        cases reads
        exact refused
  refuses := fun accepted refused => .later (descend_value accepted) refused
  refusedElse := fun refused _ => .here (Bool.eq_false_iff.mpr refused)

/-- A node that nothing followed before is like one that a blank follows, with nothing
after that. -/
theorem edge_undetermined {entry : ParserEntry} {name word : Option Text} {type : ValueType doubles}
    {isNamed : Bool} {grown : Parser doubles} :
    Edge (fun term => type.accepts term = true) (fresh word isNamed) grown (.undetermined entry)
      (.value { entry with name := name } type grown) where
  ends := fun id => by rw [takes_nil_iff, takes_nil_iff]; rfl
  earlier := fun _ => iff_of_false (fun takes => by
    rw [takes_cons_iff] at takes
    obtain ⟨_, ⟨⟩, -⟩ := takes) (not_takes_fresh word isNamed)
  through := fun accepted => takes_cons_of_descend (descend_value accepted)
  others := fun refused => by
    rw [takes_cons_iff, takes_cons_iff, descend, descend, if_neg refused]
  refused := fun _ refused => by
    cases refused with
    | later reads => cases reads
  refuses := fun accepted refused => .later (descend_value accepted) refused
  refusedElse := fun refused _ => .here (Bool.eq_false_iff.mpr refused)

/-- Where a blank leads before and after it is added. -/
theorem fillInStep {blankname : Text} {add : Parser doubles → Except Fault (Parser doubles)}
    {before after : Parser doubles} (growing : Growing before)
    (added : fbParserAddFillIn ValueType.agrees before blankname add = .ok after) :
    ∃ type known child grown, add child = .ok grown ∧
      FillInStep blankname type known child grown before after := by
  rw [fbParserAddFillIn] at added
  split at added
  · cases added
  · cases added
  · rename_i type name read named
    split at added
    · rename_i entry known child
      split at added
      · cases added
      · rename_i agreed
        have agreed : known.agrees type = true := by simpa using agreed
        split at added
        · cases added
        · rename_i kept
          obtain ⟨grown, grew, rfl⟩ := FallibleRun.map_ok_iff.mp added
          have live : Growing child := by
            cases growing with
            | live live =>
                cases live with
                | value responds branch => exact .live branch
          have strict (add : Parser doubles → Except Fault (Parser doubles)) :
              fbParserAddFillIn ValueType.agreesInRadix (.value entry known child) blankname add =
                if known.radix = type.radix then (add child).map (.value entry known ·)
                else .error (.assertion "parser->value_type == value_type") := by
            rw [fbParserAddFillIn, read, named]
            dsimp only
            rw [ValueType.agreesInRadix, agreed, Bool.true_and, kept]
            by_cases radix : known.radix = type.radix
            · rw [if_pos radix, if_neg (by simp [radix])]
            · rw [if_neg radix, if_pos (by simp [radix])]
          refine ⟨type, known, child, grown, grew, live, read, ValueType.alike_of_agrees agreed,
            edge_value, fun refused => ?_, fun refused => .here (Bool.eq_false_iff.mpr refused),
            fun radix add same => ?_, fun radix add stops => ?_, fun radix add => ?_⟩
          · rw [takes_cons_iff, descend, if_neg refused]
            rintro ⟨_, ⟨⟩, -⟩
          · rw [strict, if_pos radix, same]
            rfl
          · rw [strict, if_pos radix]
            exact map_ne_ok _ stops
          · rw [strict, if_neg radix]
            rintro other ⟨⟩
    · rename_i entry
      obtain ⟨grown, grew, rfl⟩ := FallibleRun.map_ok_iff.mp added
      have strict (add : Parser doubles → Except Fault (Parser doubles)) :
          fbParserAddFillIn ValueType.agreesInRadix (.undetermined entry) blankname add =
            (add (.fresh (some (blankWord blankname)) false)).map
              (.value { entry with name := name } type ·) := by
        rw [fbParserAddFillIn, read, named]
      refine ⟨type, type, _, grown, grew, growing_fresh _ _, read, .refl type, edge_undetermined,
        fun refused => ?_, fun refused => .here (Bool.eq_false_iff.mpr refused),
        fun _ add same => ?_, fun _ add stops => ?_, fun radix => absurd rfl radix⟩
      · rw [takes_cons_iff]
        rintro ⟨_, ⟨⟩, -⟩
      · rw [strict, same]
        rfl
      · rw [strict]
        exact map_ne_ok _ stops
    · cases added

/-! ## Adding patterns -/

/-- An addition together with the one that compares radices. -/
structure Addition (response : Int) (language : List Text → Prop)
    (strict : Except Fault (Parser doubles)) (before after : Parser doubles) : Prop where
  added : Added response language before after
  verdict : Verdict response language strict before after

/-- An addition function and the one that compares radices, with what they add. -/
def Extends (response : Int) (language : List Text → Prop)
    (add strict : Parser doubles → Except Fault (Parser doubles)) : Prop :=
  ∀ before after, Growing before → add before = .ok after →
    Addition response language (strict before) before after

section

variable {language : List Text → Prop}
  {add strict : Parser doubles → Except Fault (Parser doubles)} {before after : Parser doubles}

/-- Adding a blank adds the terms that it describes, with what follows. -/
theorem fbParserAddFillIn_adds (extension : Extends response language add strict)
    {blankname : Text} (growing : Growing before)
    (added : fbParserAddFillIn ValueType.agrees before blankname add = .ok after) :
    Addition response (Leads (BlankAccepts doubles blankname) language)
      (fbParserAddFillIn ValueType.agreesInRadix before blankname strict) before after := by
  obtain ⟨type, known, child, grown, grew, step⟩ := fillInStep growing added
  have inner := extension child grown step.growing grew
  have described (term : Text) :
      BlankAccepts doubles blankname term ↔ type.accepts term = true := by
    constructor
    · rintro ⟨other, read, accepted⟩
      cases step.read.symm.trans read
      exact accepted
    · exact fun accepted => ⟨type, step.read, accepted⟩
  have common : ∃ term, known.accepts term = true ∧ BlankAccepts doubles blankname term := by
    obtain ⟨term, accepted⟩ := type.exists_accepted
    exact ⟨term, accepted known step.alike, (described term).mpr (accepted type (.refl type))⟩
  refine ⟨step.edge.added inner.added common fun refused _ => step.unread refused, ?_⟩
  by_cases radix : known.radix = type.radix
  · rcases inner.verdict with ⟨same, exactly⟩ | ⟨stops, astray⟩
    · refine .inl ⟨step.same radix strict same, step.edge.exactly exactly fun term => ?_⟩
      rw [described, step.alike.accepts_eq radix]
    · exact .inr ⟨step.stops radix strict stops, step.edge.astray astray common⟩
  · obtain ⟨term, telling⟩ := ValueType.exists_telling step.alike radix
    have apart : ¬(known.accepts term = true ↔ BlankAccepts doubles blankname term) := by
      rw [described, ← Bool.eq_iff_iff]
      exact telling
    exact .inr ⟨step.differs radix strict, step.edge.astray_of_telling inner.added apart
      fun refused argv => step.refuses refused⟩

/-- Adding a keyword adds the terms that spell it, with what follows. -/
theorem fbParserAddKeyword_adds (extension : Extends response language add strict)
    (grows : Grows add) {entry : ParserEntry} {subcomponents : List (Parser doubles)}
    {keyword : Text} {name : Option Text} (branches : ∀ found ∈ subcomponents, Live found)
    (added : fbParserAddKeyword entry subcomponents keyword name add = .ok after) :
    Addition response (Leads (Text.strcasecmp · keyword = .eq) language)
      (fbParserAddKeyword entry subcomponents keyword name strict)
      (.keyword entry subcomponents) after := by
  obtain ⟨child, grown, grew, step⟩ := keywordStep grows branches added
  have inner := extension child grown step.growing grew
  have common : ∃ term, Text.strcasecmp term keyword = .eq ∧ Text.strcasecmp term keyword = .eq :=
    ⟨keyword, Text.strcasecmp_self keyword, Text.strcasecmp_self keyword⟩
  refine ⟨step.edge.added inner.added common fun other same => absurd same other, ?_⟩
  rcases inner.verdict with ⟨same, exactly⟩ | ⟨stops, astray⟩
  · exact .inl ⟨step.same strict same, step.edge.exactly exactly fun _ => Iff.rfl⟩
  · exact .inr ⟨step.stops strict stops, step.edge.astray astray common⟩

theorem addChoice_cons {name : Text} {entry : ParserEntry}
    {subcomponents : List (Parser doubles)} {word : Text} {words : List Text}
    (first : fbParserAddKeyword entry subcomponents word (some name) add = .ok after) :
    addChoice name add (word :: words) (.keyword entry subcomponents) =
      addChoice name add words after := by
  rw [addChoice, first]

theorem addChoice_cons_ne_ok {name : Text} {entry : ParserEntry}
    {subcomponents : List (Parser doubles)} {word : Text} {words : List Text}
    (stops : ∀ other, fbParserAddKeyword entry subcomponents word (some name) add ≠ .ok other)
    (other : Parser doubles) :
    addChoice name add (word :: words) (.keyword entry subcomponents) ≠ .ok other := by
  rw [addChoice]
  cases first : fbParserAddKeyword entry subcomponents word (some name) add with
  | error fault => rintro ⟨⟩
  | ok next => exact absurd first (stops next)

theorem oneOf_cons_iff {word : Text} {words argv : List Text} :
    Leads (OneOf (word :: words)) language argv ↔
      Leads (Text.strcasecmp · word = .eq) language argv ∨ Leads (OneOf words) language argv := by
  constructor
  · rintro ⟨term, rest, rfl, ⟨found, member, same⟩, described⟩
    rcases List.mem_cons.mp member with rfl | later
    · exact .inl ⟨term, rest, rfl, same, described⟩
    · exact .inr ⟨term, rest, rfl, ⟨found, later, same⟩, described⟩
  · rintro (⟨term, rest, rfl, same, described⟩
      | ⟨term, rest, rfl, ⟨found, member, same⟩, described⟩)
    · exact ⟨term, rest, rfl, ⟨word, List.mem_cons_self, same⟩, described⟩
    · exact ⟨term, rest, rfl, ⟨found, List.mem_cons_of_mem _ member, same⟩, described⟩

/-- Adding the words of a choice, after something else, adds the terms that spell one of them. -/
theorem addChoice_adds (extension : Extends response language add strict) (grows : Grows add)
    {name : Text} {words : List Text} {middle : Parser doubles} {first : List Text → Prop}
    (growing : Growing middle)
    (keywords : ∃ entry subcomponents, middle = .keyword entry subcomponents)
    (start : Added response first before middle)
    (added : addChoice name add words middle = .ok after) :
    Added response (fun argv => first argv ∨ Leads (OneOf words) language argv) before after ∧
      (Exactly response first before middle →
        Verdict response (fun argv => first argv ∨ Leads (OneOf words) language argv)
          (addChoice name strict words middle) before after) ∧
      (Astray response first before middle →
        Astray response (fun argv => first argv ∨ Leads (OneOf words) language argv) before
          after) := by
  induction words generalizing middle first with
  | nil =>
      obtain ⟨entry, subcomponents, rfl⟩ := keywords
      cases added
      have none : (fun argv => first argv ∨ Leads (OneOf []) language argv) = first := by
        funext argv
        refine propext (or_iff_left ?_)
        rintro ⟨_, _, -, ⟨_, member, -⟩, -⟩
        cases member
      rw [none]
      exact ⟨start, fun exactly => .inl ⟨rfl, exactly⟩, id⟩
  | cons word words ih =>
      obtain ⟨entry, subcomponents, rfl⟩ := keywords
      obtain ⟨responds, distinct, branches⟩ := growing.keyword_inv
      rw [addChoice] at added
      split at added
      · cases added
      · rename_i next one
        have step := fbParserAddKeyword_adds extension grows branches one
        have grown := fbParserAddKeyword_grown grows responds distinct branches one
        obtain ⟨child, grew, -, shape⟩ := keywordStep grows branches one
        obtain ⟨entry', subcomponents', keyword, -⟩ := shape.keywords
        obtain ⟨all, exact, stray⟩ := ih (.live grown.live) ⟨_, _, keyword⟩
          (start.trans step.added) added
        have regroup : (fun argv => first argv ∨ Leads (OneOf (word :: words)) language argv) =
            fun argv => (first argv ∨ Leads (Text.strcasecmp · word = .eq) language argv) ∨
              Leads (OneOf words) language argv := by
          funext argv
          rw [oneOf_cons_iff, or_assoc]
        rw [regroup]
        refine ⟨all, fun exactly => ?_, fun astray => stray (astray.trans step.added)⟩
        rcases step.verdict with ⟨same, exactlyNext⟩ | ⟨stops, astray⟩
        · rw [addChoice_cons same]
          exact exact (exactly.trans exactlyNext)
        · exact .inr ⟨addChoice_cons_ne_ok stops, stray (exactly.astray astray)⟩

/-- Adding the words of a choice to a node adds the terms that spell one of them. -/
theorem addChoice_adds_some (extension : Extends response language add strict) (grows : Grows add)
    {name : Text} {words : List Text} {entry : ParserEntry}
    {subcomponents : List (Parser doubles)} (growing : Growing (.keyword entry subcomponents))
    (some : words ≠ [])
    (added : addChoice name add words (.keyword entry subcomponents) = .ok after) :
    Addition response (Leads (OneOf words) language)
      (addChoice name strict words (.keyword entry subcomponents)) (.keyword entry subcomponents)
      after := by
  cases words with
  | nil => exact absurd rfl some
  | cons word words =>
      obtain ⟨responds, distinct, branches⟩ := growing.keyword_inv
      rw [addChoice] at added
      split at added
      · cases added
      · rename_i next one
        have step := fbParserAddKeyword_adds extension grows branches one
        have grown := fbParserAddKeyword_grown grows responds distinct branches one
        obtain ⟨child, grew, -, shape⟩ := keywordStep grows branches one
        obtain ⟨entry', subcomponents', keyword, -⟩ := shape.keywords
        obtain ⟨all, exact, stray⟩ := addChoice_adds extension grows (.live grown.live)
          ⟨_, _, keyword⟩ step.added added
        have regroup : Leads (OneOf (word :: words)) language = fun argv =>
            Leads (Text.strcasecmp · word = .eq) language argv ∨
              Leads (OneOf words) language argv := funext fun argv => propext oneOf_cons_iff
        rw [regroup]
        refine ⟨all, ?_⟩
        rcases step.verdict with ⟨same, exactly⟩ | ⟨stops, astray⟩
        · rw [addChoice_cons same]
          exact exact exactly
        · exact .inr ⟨addChoice_cons_ne_ok stops, stray astray⟩

end

section

variable {before after : Parser doubles}

/-- A node that is given a number is complete with it, and goes on as before. -/
theorem descend_complete (free : before.response = 0) (growing : Growing before) (term : Text) :
    (before.complete response).descend term = before.descend term := by
  cases before with
  | undetermined entry => rfl
  | keyword entry subcomponents => rfl
  | value entry type subcomponent => rfl
  | openend entry =>
      cases growing with
      | live live =>
          cases live with
          | openend completes => exact absurd free completes.ne'

private theorem response_complete (response : Int) :
    (before.complete response).response = response := by
  cases before <;> rfl

/-- Giving a node a number adds the command that ends there. -/
theorem complete_adds (positive : 0 < response) (growing : Growing before)
    (free : before.response = 0) :
    Added response (· = []) before (before.complete response) ∧
      Exactly response (· = []) before (before.complete response) := by
  have cons {term : Text} {argv : List Text} {id : Int} :
      Takes (before.complete response) (term :: argv) id ↔ Takes before (term :: argv) id := by
    rw [takes_cons_iff, takes_cons_iff, descend_complete free growing]
  have nil {id : Int} : Takes (before.complete response) [] id ↔ id = response := by
    rw [takes_nil_iff, response_complete]
    refine ⟨fun taken => taken.2.symm, ?_⟩
    rintro rfl
    exact ⟨positive, rfl⟩
  have none {id : Int} : ¬Takes before [] id := by
    rw [takes_nil_iff, free]
    rintro ⟨above, rfl⟩
    exact absurd above (lt_irrefl 0)
  have exactly : Exactly response (· = []) before (before.complete response) := by
    intro argv id
    cases argv with
    | nil => rw [nil, or_iff_right none, and_iff_left rfl]
    | cons term argv => rw [cons, or_iff_left fun found => nomatch found.2]
  refine ⟨⟨fun takes => (exactly _ _).mpr (.inl takes), fun refused => ?_, ?_,
    [], rfl, nil.mpr rfl⟩, exactly⟩
  · cases refused with
    | here refuses => exact .here refuses
    | later reads refused => exact .later ((descend_complete free growing _).trans reads) refused
  · rintro _ id rfl
    exact none

/-- Letting anything follow adds every command that goes on from a node. -/
theorem addOpenEnd_adds (positive : 0 < response) (added : addOpenEnd response before = .ok after) :
    Addition response (fun _ => True) (addOpenEnd response before) before after := by
  cases before with
  | undetermined entry =>
      have first := added
      rw [addOpenEnd] at added
      split at added
      · cases added
      · rename_i free
        cases added
        have untaken {argv : List Text} {id : Int} :
            ¬Takes (.undetermined entry : Parser doubles) argv id := by
          cases argv with
          | nil =>
              rw [takes_nil_iff]
              rintro ⟨above, same⟩
              exact free (fun zero => absurd (same.symm.trans zero) above.ne')
          | cons term argv =>
              rw [takes_cons_iff]
              rintro ⟨_, ⟨⟩, -⟩
        have takes {argv : List Text} {id : Int} :
            Takes (.openend { entry with response := response } : Parser doubles) argv id ↔
              id = response := by
          constructor
          · rintro ⟨-, final, arrives, same⟩
            rw [arrive_openend] at arrives
            cases arrives
            exact same.symm
          · rintro rfl
            exact ⟨positive, _, arrive_openend _ argv, rfl⟩
        refine ⟨⟨fun taken => absurd taken untaken, fun refused => ?_, fun _ => untaken,
          [], trivial, takes.mpr rfl⟩, .inl ⟨first, fun argv id => ?_⟩⟩
        · cases refused with
          | later reads => cases reads
        · rw [takes, or_iff_right untaken, and_iff_left trivial]
  | keyword entry subcomponents => cases added
  | value entry type subcomponent => cases added
  | openend entry => cases added

/-- Nodes that take and refuse the same commands are extended alike. -/
theorem Addition.of_same {other : Parser doubles} {language : List Text → Prop}
    {strict : Except Fault (Parser doubles)}
    (addition : Addition response language strict other after)
    (takes : ∀ {argv id}, Takes before argv id ↔ Takes other argv id)
    (refused : ∀ {argv}, Refused before argv → Refused other argv) :
    Addition response language strict before after where
  added :=
    { keeps := fun taken => addition.added.keeps (takes.mp taken)
      refuses := fun gone => addition.added.refuses (refused gone)
      new := fun described taken => addition.added.new described (takes.mp taken)
      some := addition.added.some }
  verdict := by
    rcases addition.verdict with ⟨same, exactly⟩ | ⟨stops, argv, astray⟩
    · refine .inl ⟨same, fun argv id => ?_⟩
      rw [exactly, takes]
    · refine .inr ⟨stops, argv, astray.imp_right fun ⟨taken, untaken, undescribed⟩ =>
        ⟨taken, fun id was => untaken id (takes.mp was), undescribed⟩⟩

/-- A node that keywords may follow takes the same commands once they do. -/
theorem keywordNode_same {entry : ParserEntry} {subcomponents : List (Parser doubles)}
    (node : keywordNode before = .ok (entry, subcomponents)) :
    (∀ {argv id}, Takes before argv id ↔ Takes (.keyword entry subcomponents) argv id) ∧
      ∀ {argv}, Refused before argv → Refused (.keyword entry subcomponents) argv := by
  cases before with
  | undetermined entry =>
      cases node
      refine ⟨fun {argv id} => ?_, fun refused => ?_⟩
      · cases argv with
        | nil => rw [takes_nil_iff, takes_nil_iff]; rfl
        | cons term argv => rw [takes_cons_iff, takes_cons_iff]; rfl
      · cases refused with
        | later reads => cases reads
  | keyword entry subcomponents =>
      cases node
      exact ⟨Iff.rfl, id⟩
  | value entry type subcomponent => cases node
  | openend entry => cases node

theorem fbParserAddKeyword_keyword {name : Option Text}
    {add : Parser doubles → Except Fault (Parser doubles)} {keyword : Text} {entry : ParserEntry}
    {subcomponents : List (Parser doubles)}
    (added : fbParserAddKeyword entry subcomponents keyword name add = .ok after) :
    ∃ entry' subcomponents', after = .keyword entry' subcomponents' := by
  rw [fbParserAddKeyword] at added
  split at added
  · cases added
  · dsimp only at added
    split at added
    · obtain ⟨grown, -, rfl⟩ := FallibleRun.map_ok_iff.mp added
      exact ⟨_, _, rfl⟩
    · split at added
      · cases added
      · split at added
        · cases added
        · obtain ⟨grown, -, rfl⟩ := FallibleRun.map_ok_iff.mp added
          exact ⟨_, _, rfl⟩

theorem addChoice_keyword {name : Text} {add : Parser doubles → Except Fault (Parser doubles)}
    {words : List Text} {entry : ParserEntry} {subcomponents : List (Parser doubles)}
    (added : addChoice name add words (.keyword entry subcomponents) = .ok after) :
    ∃ entry' subcomponents', after = .keyword entry' subcomponents' := by
  induction words generalizing entry subcomponents with
  | nil =>
      cases added
      exact ⟨_, _, rfl⟩
  | cons word words ih =>
      rw [addChoice] at added
      split at added
      · cases added
      · rename_i next first
        obtain ⟨entry', subcomponents', rfl⟩ := fbParserAddKeyword_keyword first
        exact ih added

theorem fbParserAddFillIn_keyword_ne {agrees : ValueType doubles → ValueType doubles → Bool}
    {entry : ParserEntry} {subcomponents : List (Parser doubles)} {blankname : Text}
    {add : Parser doubles → Except Fault (Parser doubles)} :
    fbParserAddFillIn agrees (.keyword entry subcomponents) blankname add ≠ .ok after := by
  rw [fbParserAddFillIn]
  split <;> rintro ⟨⟩

/-- What is added to a node that keywords follow leaves it one. -/
theorem fbParserAdd_keyword {agrees : ValueType doubles → ValueType doubles → Bool}
    {pattern : List Text} {entry : ParserEntry} {subcomponents : List (Parser doubles)}
    (added : fbParserAdd agrees response pattern (.keyword entry subcomponents) = .ok after) :
    ∃ entry' subcomponents', after = .keyword entry' subcomponents' := by
  induction pattern generalizing entry subcomponents after with
  | nil =>
      rw [fbParserAdd] at added
      split at added
      · cases added
      · cases added
        exact ⟨_, _, rfl⟩
  | cons word pattern ih =>
      rw [fbParserAdd] at added
      split at added
      · split at added
        · cases added
        · split at added
          · cases added
          · exact absurd added fbParserAddFillIn_keyword_ne
      · split at added
        · cases added
        · split at added
          · exact absurd added fbParserAddFillIn_keyword_ne
          · rw [keywordNode] at added
            dsimp only at added
            rw [addKeywords] at added
            split at added
            · split at added
              · cases added
              · rename_i middle first
                obtain ⟨_, _, rfl⟩ := ih first
                exact addChoice_keyword added
            · split at added
              · exact addChoice_keyword added
              · exact fbParserAddKeyword_keyword added

end

/-- Adding a word that stands for keywords, with what follows, adds the commands that go on with one
of them, or without any if they are optional. -/
theorem addKeywords_adds {word : Text} {pattern : List Text} {entry : ParserEntry}
    {subcomponents : List (Parser doubles)} {after : Parser doubles}
    (required : ¬isOptionalBlank word = true) (closed : word ≠ ellipsis)
    (keyword : ¬isBlank word = true) (growing : Growing (.keyword entry subcomponents))
    (nonempty : isAlternation word = true → choiceWords word ≠ [])
    (extension : Extends response (Matches doubles pattern)
      (@fbParserAdd doubles ValueType.agrees response pattern)
      (@fbParserAdd doubles ValueType.agreesInRadix response pattern))
    (grows : Grows (@fbParserAdd doubles ValueType.agrees response pattern))
    (added : addKeywords entry subcomponents word
      (fbParserAdd ValueType.agrees response pattern) = .ok after) :
    Addition response (Matches doubles (word :: pattern))
      (addKeywords entry subcomponents word
        (fbParserAdd ValueType.agreesInRadix response pattern))
      (.keyword entry subcomponents) after := by
  rw [addKeywords] at added ⊢
  by_cases optional : isOptional word = true
  · have language : Matches doubles (word :: pattern) = fun argv => Matches doubles pattern argv ∨
        Leads (OneOf (choiceWords word)) (Matches doubles pattern) argv := by
      funext argv
      rw [Matches, if_neg required, if_neg closed, if_neg keyword, if_pos optional]
    rw [if_pos optional] at added ⊢
    rw [language]
    split at added
    · cases added
    · rename_i middle first
      have step := extension _ middle growing first
      obtain ⟨all, exact, stray⟩ := addChoice_adds extension grows
        (.live (grows _ _ growing first).live) (fbParserAdd_keyword first) step.added added
      refine ⟨all, ?_⟩
      rcases step.verdict with ⟨same, exactly⟩ | ⟨stops, astray⟩
      · rw [same]
        exact exact exactly
      · refine .inr ⟨fun other => ?_, stray astray⟩
        split
        · rintro ⟨⟩
        · rename_i parser found
          exact absurd found (stops parser)
  · rw [if_neg optional] at added ⊢
    by_cases alternation : isAlternation word = true
    · have language : Matches doubles (word :: pattern) =
          Leads (OneOf (choiceWords word)) (Matches doubles pattern) := by
        funext argv
        rw [Matches, if_neg required, if_neg closed, if_neg keyword, if_neg optional,
          if_pos alternation]
      rw [if_pos alternation] at added ⊢
      rw [language]
      exact addChoice_adds_some extension grows growing (nonempty alternation) added
    · have language : Matches doubles (word :: pattern) =
          Leads (Text.strcasecmp · word = .eq) (Matches doubles pattern) := by
        funext argv
        rw [Matches, if_neg required, if_neg closed, if_neg keyword, if_neg optional,
          if_neg alternation]
      rw [if_neg alternation] at added ⊢
      rw [language]
      exact fbParserAddKeyword_adds extension grows growing.keyword_inv.2.2 added

/-- Adding a pattern with the code's comparison of blanks and with one that looks at the radix: the
commands of the pattern are added, exactly if the second takes the pattern. -/
theorem fbParserAdd_adds (positive : 0 < response) {pattern : List Text}
    (nonempty : ∀ word ∈ pattern, isAlternation word = true → choiceWords word ≠ []) :
    Extends response (Matches doubles pattern)
      (@fbParserAdd doubles ValueType.agrees response pattern)
      (@fbParserAdd doubles ValueType.agreesInRadix response pattern) := by
  induction pattern with
  | nil =>
      intro before after growing added
      have strict : fbParserAdd ValueType.agreesInRadix response [] before = .ok after := by
        rw [fbParserAdd] at added ⊢
        exact added
      rw [fbParserAdd] at added
      split at added
      · cases added
      · rename_i free
        cases added
        obtain ⟨more, exactly⟩ := complete_adds positive growing (not_not.mp free)
        exact ⟨more, .inl ⟨strict, exactly⟩⟩
  | cons word pattern ih =>
      intro before after growing added
      have later := fun other member => nonempty other (List.mem_cons_of_mem word member)
      have extension := ih later
      have grows := fbParserAdd_grown (@ValueType.agrees doubles) positive later
      rw [fbParserAdd] at added
      rw [fbParserAdd]
      by_cases optionalBlank : isOptionalBlank word = true
      · have language : Matches doubles (word :: pattern) = fun argv => argv = [] ∨
            Leads (BlankAccepts doubles (insideBrackets word)) (Matches doubles pattern) argv := by
          funext argv
          rw [Matches, if_pos optionalBlank]
        rw [if_pos optionalBlank] at added ⊢
        split at added
        · cases added
        · rename_i placed
          split at added
          · cases added
          · rename_i free
            have free := not_not.mp free
            obtain ⟨more, exactly⟩ := complete_adds positive growing free
            have ready := growing.complete positive free
            have blank := fbParserAddFillIn_adds extension (.live ready.live) added
            rw [language, if_neg placed, if_neg (not_not.mpr free)]
            refine ⟨more.trans blank.added, ?_⟩
            rcases blank.verdict with ⟨same, exactlyBlank⟩ | ⟨stops, astray⟩
            · exact .inl ⟨same, exactly.trans exactlyBlank⟩
            · exact .inr ⟨stops, exactly.astray astray⟩
      · rw [if_neg optionalBlank] at added ⊢
        by_cases anything : word = ellipsis
        · have language : Matches doubles (word :: pattern) = fun _ => True := by
            funext argv
            rw [Matches, if_neg optionalBlank, if_pos anything]
          rw [if_pos anything] at added ⊢
          rw [language]
          exact addOpenEnd_adds positive added
        · rw [if_neg anything] at added ⊢
          by_cases blank : isBlank word = true
          · have language : Matches doubles (word :: pattern) =
                Leads (BlankAccepts doubles word) (Matches doubles pattern) := by
              funext argv
              rw [Matches, if_neg optionalBlank, if_neg anything, if_pos blank]
            rw [if_pos blank] at added ⊢
            rw [language]
            exact fbParserAddFillIn_adds extension growing added
          · rw [if_neg blank] at added ⊢
            cases node : keywordNode before with
            | error fault =>
                rw [node] at added
                cases added
            | ok parts =>
                obtain ⟨entry, subcomponents⟩ := parts
                obtain ⟨takes, refused⟩ := keywordNode_same node
                obtain ⟨ready, -⟩ := growing.keywordNode node
                rw [node] at added
                dsimp only at added ⊢
                have addition := addKeywords_adds optionalBlank anything blank ready
                  (nonempty word List.mem_cons_self) extension grows added
                exact addition.of_same takes refused

end Parser

end Football
