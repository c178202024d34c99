import Pianod.Football.Grammar

/-!
# Patterns without real numbers

Patterns in which no blank has a range of real numbers are added in the same way whatever the
floating-point numbers are.  Adding them can therefore be tried with numbers of which none can be
read.
-/

namespace Football

open Foundation

/-- A word that is no blank with a range of real numbers: none of its blanks has a point. -/
def Whole (word : Text) : Prop := 123 ∈ word → 46 ∉ word

instance (word : Text) : Decidable (Whole word) :=
  inferInstanceAs (Decidable (123 ∈ word → 46 ∉ word))

/-- The blank that takes the same terms; there are no real numbers to begin with. -/
def ValueType.transfer (doubles : Doubles) : ValueType noDoubles → ValueType doubles
  | .string => .string
  | .numeric => .numeric
  | .rangedInteger range => .rangedInteger range
  | .rangedReal range => nomatch range.ordered

namespace Parser

variable (doubles : Doubles)

mutual

/-- The tree with the same blanks. -/
def transfer : Parser noDoubles → Parser doubles
  | .undetermined entry => .undetermined entry
  | .keyword entry subcomponents => .keyword entry (transferEach subcomponents)
  | .value entry type subcomponent => .value entry (type.transfer doubles) (transfer subcomponent)
  | .openend entry => .openend entry

def transferEach : List (Parser noDoubles) → List (Parser doubles)
  | [] => []
  | parser :: parsers => transfer parser :: transferEach parsers

end

theorem transferEach_eq_map (subcomponents : List (Parser noDoubles)) :
    transferEach doubles subcomponents = subcomponents.map (transfer doubles) := by
  induction subcomponents with
  | nil => rw [transferEach, List.map_nil]
  | cons parser parsers ih => rw [transferEach, ih, List.map_cons]

theorem transfer_keyword (entry : ParserEntry) (subcomponents : List (Parser noDoubles)) :
    transfer doubles (.keyword entry subcomponents) =
      .keyword entry (subcomponents.map (transfer doubles)) := by
  rw [transfer, transferEach_eq_map]

@[simp]
theorem entry_transfer (parser : Parser noDoubles) :
    (transfer doubles parser).entry = parser.entry := by
  cases parser <;> rw [transfer] <;> rfl

@[simp]
theorem word_transfer (parser : Parser noDoubles) :
    (transfer doubles parser).word = parser.word := by
  rw [Parser.word, Parser.word, entry_transfer]

@[simp]
theorem response_transfer (parser : Parser noDoubles) :
    (transfer doubles parser).response = parser.response := by
  rw [Parser.response, Parser.response, entry_transfer]

theorem transfer_complete (response : Int) (parser : Parser noDoubles) :
    transfer doubles (parser.complete response) = (transfer doubles parser).complete response := by
  cases parser <;> simp only [Parser.complete, transfer]

theorem transfer_fresh (word : Option Text) (isNamed : Bool) :
    transfer doubles (fresh word isNamed) = fresh word isNamed := by
  rw [fresh, transfer, fresh]

end Parser

/-! ## Adding -/

variable {doubles : Doubles}

private theorem blankType_transfer {blankname : Text} (whole : 46 ∉ blankname) :
    blankType doubles blankname =
      (blankType noDoubles blankname).map (ValueType.transfer doubles) := by
  unfold blankType
  split
  · rfl
  · cases afterFirst 58 blankname with
    | none => rfl
    | some range =>
        simp only
        split
        · rfl
        · cases integerRange range _ <;> rfl

/-- Blanks that may share a node still may after a transfer. -/
def Permits (agrees : ValueType doubles → ValueType doubles → Bool)
    (plain : ValueType noDoubles → ValueType noDoubles → Bool) : Prop :=
  ∀ known type, plain known type = true →
    agrees (known.transfer doubles) (type.transfer doubles) = true

private theorem agreesInRadix_transfer (known type : ValueType noDoubles) :
    (known.transfer doubles).agreesInRadix (type.transfer doubles) = known.agreesInRadix type := by
  cases known <;> cases type <;> first | rfl | exact nomatch ‹RealRange noDoubles›.ordered

theorem permits_agreesInRadix :
    Permits (@ValueType.agreesInRadix doubles) ValueType.agreesInRadix :=
  fun known type same => (agreesInRadix_transfer known type).trans same

theorem permits_agrees : Permits (@ValueType.agrees doubles) ValueType.agreesInRadix :=
  fun known type same => (Bool.and_eq_true_iff.mp (permits_agreesInRadix known type same)).1

/-- An addition that goes through after a transfer as well. -/
def Follows (add : Parser doubles → Except Fault (Parser doubles))
    (plain : Parser noDoubles → Except Fault (Parser noDoubles)) : Prop :=
  ∀ ⦃parser after⦄, plain parser = .ok after →
    add (parser.transfer doubles) = .ok (after.transfer doubles)

section

variable {add : Parser doubles → Except Fault (Parser doubles)}
  {plain : Parser noDoubles → Except Fault (Parser noDoubles)} {after : Parser noDoubles}

theorem fbParserAddKeyword_transfer (follows : Follows add plain) {entry : ParserEntry}
    {subcomponents : List (Parser noDoubles)} {keyword : Text} {name : Option Text}
    (added : fbParserAddKeyword entry subcomponents keyword name plain = .ok after) :
    fbParserAddKeyword entry (subcomponents.map (Parser.transfer doubles)) keyword name add =
      .ok (after.transfer doubles) := by
  unfold fbParserAddKeyword at added ⊢
  split at added
  · cases added
  · rename_i agreed
    rw [if_neg agreed]
    simp only [List.findIdx?_map, Function.comp_def, Parser.word_transfer]
    cases located : subcomponents.findIdx? fun found =>
        Text.strcasecmp keyword found.word = .eq with
    | none =>
        rw [located] at added
        obtain ⟨found, grown, rfl⟩ := FallibleRun.map_ok_iff.mp added
        have fresh := follows grown
        rw [Parser.transfer_fresh] at fresh
        simp [fresh, Except.map, Parser.transfer_keyword]
    | some index =>
        simp only [located, List.getElem?_map] at added ⊢
        cases there : subcomponents[index]? with
        | none =>
            rw [there] at added
            cases added
        | some found =>
            simp only [there] at added
            simp only [Option.map_some, Parser.entry_transfer]
            split at added
            · cases added
            · rename_i named
              obtain ⟨grown, adds, rfl⟩ := FallibleRun.map_ok_iff.mp added
              rw [if_neg named, follows adds, Except.map, Parser.transfer_keyword, List.map_set]

theorem addChoice_transfer (follows : Follows add plain) {name : Text} {keywords : List Text}
    {parser : Parser noDoubles} (added : addChoice name plain keywords parser = .ok after) :
    addChoice name add keywords (parser.transfer doubles) = .ok (after.transfer doubles) := by
  induction keywords generalizing parser with
  | nil =>
      cases added
      rfl
  | cons keyword keywords ih =>
      cases parser with
      | keyword entry subcomponents =>
          rw [addChoice] at added
          cases first : fbParserAddKeyword entry subcomponents keyword (some name) plain with
          | error fault =>
              rw [first] at added
              cases added
          | ok next =>
              rw [first] at added
              rw [Parser.transfer_keyword, addChoice, fbParserAddKeyword_transfer follows first]
              exact ih added
      | undetermined entry =>
          cases added
          rfl
      | value entry type subcomponent =>
          cases added
          rfl
      | openend entry =>
          cases added
          rfl

private theorem addKeywords_transfer (follows : Follows add plain) {entry : ParserEntry}
    {subcomponents : List (Parser noDoubles)} {word : Text}
    (added : addKeywords entry subcomponents word plain = .ok after) :
    addKeywords entry (subcomponents.map (Parser.transfer doubles)) word add =
      .ok (after.transfer doubles) := by
  unfold addKeywords at added ⊢
  rw [← Parser.transfer_keyword]
  split at added
  · rename_i optional
    rw [if_pos optional]
    cases onward : plain (.keyword entry subcomponents) with
    | error fault =>
        rw [onward] at added
        cases added
    | ok parser =>
        rw [onward] at added
        rw [follows onward]
        exact addChoice_transfer follows added
  · rename_i required
    rw [if_neg required]
    split at added
    · rename_i choice
      rw [if_pos choice]
      exact addChoice_transfer follows added
    · rename_i single
      rw [if_neg single]
      exact fbParserAddKeyword_transfer follows added

theorem fbParserAddFillIn_transfer {agrees : ValueType doubles → ValueType doubles → Bool}
    {alike : ValueType noDoubles → ValueType noDoubles → Bool} (permits : Permits agrees alike)
    (follows : Follows add plain) {blankname : Text} (whole : 46 ∉ blankname)
    {parser : Parser noDoubles}
    (added : fbParserAddFillIn alike parser blankname plain = .ok after) :
    fbParserAddFillIn agrees (parser.transfer doubles) blankname add =
      .ok (after.transfer doubles) := by
  unfold fbParserAddFillIn at added ⊢
  rw [blankType_transfer whole]
  cases read : blankType noDoubles blankname with
  | error fault =>
      rw [read] at added
      cases added
  | ok type =>
      rw [read] at added
      cases named : blankName blankname with
      | error fault =>
          rw [named] at added
          cases added
      | ok name =>
          rw [named] at added
          cases parser with
          | keyword entry subcomponents => cases added
          | openend entry => cases added
          | undetermined entry =>
              obtain ⟨grown, adds, rfl⟩ := FallibleRun.map_ok_iff.mp added
              have fresh := follows adds
              rw [Parser.transfer_fresh] at fresh
              simp only [Except.map, Parser.transfer, fresh]
          | value entry known subcomponent =>
              simp only at added
              split at added
              · cases added
              · rename_i same
                cases blank : sameBlankName entry.name name with
                | error fault =>
                    rw [blank] at added
                    cases added
                | ok _ =>
                    rw [blank] at added
                    obtain ⟨grown, adds, rfl⟩ := FallibleRun.map_ok_iff.mp added
                    have shared := permits known type (Bool.not_eq_false _ ▸ same)
                    simp [Except.map, Parser.transfer, shared, blank, follows adds]

end

private theorem keywordNode_transfer (parser : Parser noDoubles) :
    keywordNode (parser.transfer doubles) = (keywordNode parser).map fun node =>
      (node.1, node.2.map (Parser.transfer doubles)) := by
  cases parser with
  | keyword entry subcomponents =>
      rw [Parser.transfer_keyword]
      rfl
  | undetermined entry => rfl
  | value entry type subcomponent => rfl
  | openend entry => rfl

private theorem addOpenEnd_transfer (response : Int) (parser : Parser noDoubles) :
    addOpenEnd response (parser.transfer doubles) =
      (addOpenEnd response parser).map (Parser.transfer doubles) := by
  cases parser with
  | undetermined entry =>
      rw [Parser.transfer, addOpenEnd, addOpenEnd]
      split <;> rfl
  | keyword entry subcomponents => rfl
  | value entry type subcomponent => rfl
  | openend entry => rfl

private theorem head_mem_of_isBlank {word : Text} (blank : isBlank word = true) : 123 ∈ word := by
  rw [isBlank, Bool.and_eq_true, beq_iff_eq] at blank
  exact List.mem_of_mem_head? blank.1

private theorem brace_mem_of_isOptionalBlank {word : Text} (blank : isOptionalBlank word = true) :
    123 ∈ word := by
  simp only [isOptionalBlank, Bool.and_eq_true, beq_iff_eq] at blank
  exact List.mem_of_getElem? blank.1.1.2

private theorem mem_of_mem_insideBrackets {word : Text} {byte : UInt8}
    (inside : byte ∈ insideBrackets word) : byte ∈ word :=
  List.mem_of_mem_drop (List.mem_of_mem_dropLast inside)

/-- A pattern whose blanks have no ranges of real numbers is added after a transfer as well. -/
theorem fbParserAdd_transfer {agrees : ValueType doubles → ValueType doubles → Bool}
    {alike : ValueType noDoubles → ValueType noDoubles → Bool} (permits : Permits agrees alike)
    (response : Int) {argv : List Text} (whole : ∀ word ∈ argv, Whole word) :
    Follows (fbParserAdd agrees response argv) (fbParserAdd alike response argv) := by
  induction argv with
  | nil =>
      intro parser after added
      rw [fbParserAdd] at added
      rw [fbParserAdd, Parser.response_transfer]
      split at added
      · cases added
      · rename_i vacant
        cases added
        rw [if_neg vacant, Parser.transfer_complete]
  | cons word argv ih =>
      have onward := ih fun other member => whole other (List.mem_cons_of_mem _ member)
      have here : Whole word := whole word List.mem_cons_self
      intro parser after added
      rw [fbParserAdd] at added
      rw [fbParserAdd, Parser.response_transfer]
      split at added
      · rename_i optional
        rw [if_pos optional]
        split at added
        · cases added
        · rename_i placed
          rw [if_neg placed]
          split at added
          · cases added
          · rename_i vacant
            rw [if_neg vacant, ← Parser.transfer_complete]
            exact fbParserAddFillIn_transfer permits onward
              (fun point => here (brace_mem_of_isOptionalBlank optional)
                (mem_of_mem_insideBrackets point)) added
      · rename_i required
        rw [if_neg required]
        split at added
        · rename_i anything
          rw [if_pos anything, addOpenEnd_transfer, added, Except.map]
        · rename_i something
          rw [if_neg something]
          split at added
          · rename_i blank
            rw [if_pos blank]
            exact fbParserAddFillIn_transfer permits onward (here (head_mem_of_isBlank blank)) added
          · rename_i word
            rw [if_neg word, keywordNode_transfer]
            cases found : keywordNode parser with
            | error fault =>
                rw [found] at added
                cases added
            | ok node =>
                rw [found] at added
                exact addKeywords_transfer onward added

/-! ## Sorting -/

private theorem fbParseCompare_transfer (first second : Parser noDoubles) :
    fbParseCompare (first.transfer doubles) (second.transfer doubles) =
      fbParseCompare first second := by
  rw [fbParseCompare, Parser.word_transfer, Parser.word_transfer, fbParseCompare]

private theorem sortWords_transfer (subcomponents : List (Parser noDoubles)) :
    sortWords (subcomponents.map (Parser.transfer doubles)) =
      (sortWords subcomponents).map (Parser.transfer doubles) := by
  rw [sortWords, sortWords]
  refine (List.map_insertionSort _ _ _ subcomponents fun first _ second _ => ?_).symm
  rw [fbParseCompare_transfer]

mutual

theorem fbSortAll_transfer : (parser : Parser noDoubles) →
    fbSortAll (parser.transfer doubles) = (fbSortAll parser).transfer doubles
  | .undetermined _ => rfl
  | .openend _ => rfl
  | .value entry type subcomponent => by
      rw [Parser.transfer, fbSortAll, fbSortAll_transfer subcomponent, fbSortAll, Parser.transfer]
  | .keyword entry subcomponents => by
      rw [Parser.transfer, fbSortAll, sortEach_transfer subcomponents, fbSortAll,
        Parser.transferEach_eq_map, sortWords_transfer, Parser.transfer_keyword]

theorem sortEach_transfer : (subcomponents : List (Parser noDoubles)) →
    sortEach (Parser.transferEach doubles subcomponents) =
      Parser.transferEach doubles (sortEach subcomponents)
  | [] => rfl
  | parser :: parsers => by
      rw [Parser.transferEach, sortEach, fbSortAll_transfer parser, sortEach_transfer parsers,
        sortEach, Parser.transferEach]

end

/-- Definitions whose blanks have no ranges of real numbers. -/
def WholeNumbers (definitions : List ParseDefinition) : Prop :=
  ∀ definition ∈ definitions, ∀ word ∈ patternWords definition.statement, Whole word

variable {agrees : ValueType doubles → ValueType doubles → Bool}
  {alike : ValueType noDoubles → ValueType noDoubles → Bool}

private theorem addStatements_transfer (permits : Permits agrees alike)
    {definitions : List ParseDefinition} (whole : WholeNumbers definitions)
    {parser after : Parser noDoubles} (added : addStatements alike parser definitions = .ok after) :
    addStatements agrees (parser.transfer doubles) definitions = .ok (after.transfer doubles) := by
  obtain ⟨grown, run, rfl⟩ := FallibleRun.map_ok_iff.mp added
  have runs : FallibleRun.run (addDefinition agrees) (parser.transfer doubles) definitions =
      .ok (grown.transfer doubles) :=
    FallibleRun.run_simulates (Parser.transfer doubles) (fun definition member _ _ adds =>
      fbParserAdd_transfer permits definition.response (whole definition member) adds) run
  rw [addStatements, runs, Except.map, fbSortAll_transfer]

/-- Definitions that can be added without any real numbers can be added with any. -/
theorem run_addStatements_transfer (permits : Permits agrees alike)
    {batches : List (List ParseDefinition)} (whole : WholeNumbers batches.flatten)
    {parser after : Parser noDoubles}
    (added : FallibleRun.run (addStatements alike) parser batches = .ok after) :
    FallibleRun.run (addStatements agrees) (parser.transfer doubles) batches =
      .ok (after.transfer doubles) := by
  refine FallibleRun.run_simulates (Parser.transfer doubles) (fun batch member _ _ adds => ?_) added
  refine addStatements_transfer permits (fun definition inside => ?_) adds
  exact whole definition (List.mem_flatten_of_mem member inside)

end Football
