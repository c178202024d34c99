import Pianod.Football.NumberBlanks
import Pianod.Football.ParseTrees

/-!
# Parse errors

A command is refused at the first of its terms with which no accepted command can begin.  A command
that is incomplete can be continued to one that is accepted.
-/

namespace Football

open Foundation

variable {doubles : Doubles}

theorem ParseError.code_nonpos (error : ParseError) : error.code ≤ 0 := by
  cases error <;> decide

private theorem ParseError.code_inj {error other : ParseError} (same : error.code = other.code) :
    error = other := by
  cases error <;> cases other <;> first | rfl | cases same

namespace Parser

/-! ## Sorted trees -/

/-- The keywords of every node ascend. -/
inductive Sorted : Parser doubles → Prop
  | undetermined {entry : ParserEntry} : Sorted (.undetermined entry)
  | keyword {entry : ParserEntry} {subcomponents : List (Parser doubles)}
      (ascending : subcomponents.Pairwise fun first second => fbParseCompare first second = .lt)
      (branches : ∀ found ∈ subcomponents, Sorted found) : Sorted (.keyword entry subcomponents)
  | value {entry : ParserEntry} {type : ValueType doubles} {subcomponent : Parser doubles}
      (branch : Sorted subcomponent) : Sorted (.value entry type subcomponent)
  | openend {entry : ParserEntry} : Sorted (.openend entry)

theorem sortEach_eq_map (subcomponents : List (Parser doubles)) :
    sortEach subcomponents = subcomponents.map fbSortAll := by
  induction subcomponents with
  | nil => rw [sortEach, List.map_nil]
  | cons parser parsers ih => rw [sortEach, ih, List.map_cons]

@[simp]
theorem entry_fbSortAll (parser : Parser doubles) : (fbSortAll parser).entry = parser.entry := by
  cases parser <;> rw [fbSortAll] <;> rfl

private theorem fbParseCompare_fbSortAll (first second : Parser doubles) :
    fbParseCompare (fbSortAll first) (fbSortAll second) = fbParseCompare first second := by
  simp [fbParseCompare, Parser.word]

theorem sortWords_perm (subcomponents : List (Parser doubles)) :
    List.Perm (sortWords subcomponents) subcomponents := List.perm_insertionSort _ _

instance : Std.TransCmp (@fbParseCompare doubles) :=
  inferInstanceAs
    (Std.TransCmp (compareOn fun parser : Parser doubles => Text.foldCase parser.word))

private theorem pairwise_sortWords (subcomponents : List (Parser doubles)) :
    (sortWords subcomponents).Pairwise fun first second =>
      (fbParseCompare first second).isLE = true := by
  have total : Std.Total fun first second : Parser doubles =>
      (fbParseCompare first second).isLE = true := by
    refine ⟨fun first second => ?_⟩
    cases compared : fbParseCompare first second with
    | lt => exact .inl rfl
    | eq => exact .inl rfl
    | gt => exact .inr (Ordering.isLE_of_eq_lt (Std.OrientedCmp.gt_iff_lt.mp compared))
  have transitive : IsTrans (Parser doubles) fun first second =>
      (fbParseCompare first second).isLE = true := ⟨fun _ _ _ => Std.TransCmp.isLE_trans⟩
  exact List.pairwise_insertionSort _ subcomponents

/-- Distinct nodes ascend strictly once they are sorted. -/
theorem ascending_sortWords {subcomponents : List (Parser doubles)}
    (distinct : Distinct subcomponents) :
    (sortWords subcomponents).Pairwise fun first second => fbParseCompare first second = .lt := by
  have apart : Distinct (sortWords subcomponents) := by
    refine (List.Perm.pairwise_iff ?_ (sortWords_perm subcomponents)).mpr distinct
    intro first second different same
    exact different (Std.OrientedCmp.eq_comm.mp same)
  refine List.Pairwise.imp₂ ?_ (pairwise_sortWords subcomponents) apart
  intro first second below different
  cases compared : fbParseCompare first second with
  | lt => rfl
  | eq => exact absurd compared different
  | gt =>
      rw [compared] at below
      cases below

theorem Distinct.sortEach {subcomponents : List (Parser doubles)}
    (distinct : Distinct subcomponents) : Distinct (sortEach subcomponents) := by
  rw [sortEach_eq_map, Distinct, List.pairwise_map]
  exact distinct.imp fun different same => different (by rwa [fbParseCompare_fbSortAll] at same)

theorem Distinct.sorted {subcomponents : List (Parser doubles)}
    (distinct : Distinct subcomponents) : Distinct (sortWords (Football.sortEach subcomponents)) :=
  (ascending_sortWords distinct.sortEach).imp fun below same => by
    rw [below] at same
    cases same

theorem mem_sorted {subcomponents : List (Parser doubles)} {found : Parser doubles} :
    found ∈ sortWords (Football.sortEach subcomponents) ↔
      ∃ other ∈ subcomponents, fbSortAll other = found := by
  rw [(sortWords_perm _).mem_iff, sortEach_eq_map, List.mem_map]

/-- Sorting keeps a tree live. -/
theorem Live.sorted {parser : Parser doubles} (live : Live parser) : Live (fbSortAll parser) := by
  induction live with
  | undetermined completes =>
      rw [fbSortAll]
      exact .undetermined completes
  | openend completes =>
      rw [fbSortAll]
      exact .openend completes
  | value responds branch ih =>
      rw [fbSortAll]
      exact .value responds ih
  | @keyword entry subcomponents responds distinct continues branches ih =>
      rw [fbSortAll]
      refine .keyword responds distinct.sorted (continues.imp_right fun some empty => some ?_) ?_
      · intro found member
        obtain ⟨other, there, rfl⟩ := mem_sorted.mp member
        exact ih other there
      · have none := (sortWords_perm (Football.sortEach subcomponents)).symm
        rw [empty, sortEach_eq_map] at none
        exact List.map_eq_nil_iff.mp none.eq_nil

/-- A live tree ascends once it is sorted. -/
theorem Live.ascends {parser : Parser doubles} (live : Live parser) :
    Sorted (fbSortAll parser) := by
  induction live with
  | undetermined completes =>
      rw [fbSortAll]
      exact .undetermined
  | openend completes =>
      rw [fbSortAll]
      exact .openend
  | value responds branch ih =>
      rw [fbSortAll]
      exact .value ih
  | @keyword entry subcomponents responds distinct continues branches ih =>
      rw [fbSortAll]
      refine .keyword (ascending_sortWords distinct.sortEach) fun found member => ?_
      obtain ⟨other, there, rfl⟩ := mem_sorted.mp member
      exact ih other there

/-! ## Interpreting commands in sorted trees -/

/-- In ascending nodes the binary search finds the node that a search in order finds. -/
theorem bsearch_words {subcomponents : List (Parser doubles)} (term : Text)
    (ascending : subcomponents.Pairwise fun first second => fbParseCompare first second = .lt) :
    (bsearch (fun found => Text.strcasecmp term found.word) subcomponents).bind
        (subcomponents[·]?) =
      subcomponents.find? fun found => Text.strcasecmp term found.word = .eq := by
  have words : (subcomponents.map Parser.word).Pairwise fun first second =>
      Text.strcasecmp first second = .lt := List.pairwise_map.mpr ascending
  cases searched : bsearch (fun found => Text.strcasecmp term found.word) subcomponents with
  | none =>
      have keys : Ascending (fun found => Text.strcasecmp term found.word) subcomponents := by
        have sorted := Ascending.of_sorted words term
        rwa [Ascending, List.pairwise_map] at sorted
      have missed := bsearch_none keys searched
      symm
      rw [Option.bind_none, List.find?_eq_none]
      intro found member same
      exact missed found member (of_decide_eq_true same)
  | some index =>
      obtain ⟨found, there, equal⟩ := bsearch_some searched
      rw [Option.bind_some, there]
      obtain ⟨inside, rfl⟩ := List.getElem?_eq_some_iff.mp there
      symm
      rw [List.find?_eq_some_iff_append]
      refine ⟨decide_eq_true equal, subcomponents.take index, subcomponents.drop (index + 1),
        ?_, fun other member => ?_⟩
      · rw [← List.drop_eq_getElem_cons inside, List.take_append_drop]
      · obtain ⟨place, bound, rfl⟩ := List.getElem_of_mem member
        rw [List.length_take] at bound
        rw [List.getElem_take]
        have below :=
          List.pairwise_iff_getElem.mp ascending place index (by omega) inside (by omega)
        rw [Bool.not_eq_true', decide_eq_false_iff_not]
        intro same
        rw [Text.strcasecmp_eq_iff] at same equal
        rw [fbParseCompare, Text.strcasecmp_eq_iff.mpr (same.symm.trans equal)] at below
        cases below

variable {parser : Parser doubles}

theorem arrive_openend (entry : ParserEntry) (argv : List Text) :
    (recognizer doubles).arrive (.openend entry) argv = some (.openend entry) := by
  induction argv with
  | nil => rfl
  | cons term argv ih => exact ih

/-- A value is refused for what it is, not for being incomplete. -/
theorem check_ne_incomplete {type : ValueType doubles} {term : Text} {error : ParseError}
    (refused : type.check term = some error) : error ≠ .incomplete := by
  rintro rfl
  cases type with
  | string => cases refused
  | numeric =>
      rw [ValueType.check] at refused
      split at refused <;> cases refused
  | rangedInteger range =>
      simp only [ValueType.check] at refused
      split at refused
      · cases refused
      · split at refused <;> cases refused
  | rangedReal range =>
      simp only [ValueType.check] at refused
      split at refused
      · cases refused
      · split at refused <;> cases refused

/-- A term that can be read leads on to the next node. -/
theorem fbInterpretRecurse_reads {term : Text} {next : Parser doubles} (sorted : Sorted parser)
    (reads : parser.descend term = some next) (argv : List Text) (index : Nat) :
    (∃ entry, parser = .openend entry) ∨
      fbInterpretRecurse (term :: argv) index parser =
      fbInterpretRecurse argv (index + 1) next := by
  cases sorted with
  | undetermined => cases reads
  | @openend entry => exact .inl ⟨entry, rfl⟩
  | @keyword entry subcomponents ascending branches =>
      right
      rw [descend, ← bsearch_words term ascending] at reads
      obtain ⟨place, searched, there⟩ := Option.bind_eq_some_iff.mp reads
      simp only [fbInterpretRecurse, searched, there]
  | @value entry type subcomponent branch =>
      right
      rw [descend] at reads
      split at reads
      · rename_i accepted
        cases reads
        simp only [fbInterpretRecurse, Option.isNone_iff_eq_none.mp accepted]
      · cases reads

/-- A command is refused at a term that cannot be read. -/
theorem fbInterpretRecurse_refuses {term : Text} (sorted : Sorted parser)
    (refuses : parser.descend term = none) (argv : List Text) (index : Nat) :
    ∃ error : ParseError, error ≠ .incomplete ∧
      fbInterpretRecurse (term :: argv) index parser = (error.code, .term index) := by
  cases sorted with
  | undetermined => exact ⟨.extraTerms, by decide, rfl⟩
  | openend => cases refuses
  | @keyword entry subcomponents ascending branches =>
      rw [descend, ← bsearch_words term ascending] at refuses
      rw [fbInterpretRecurse]
      cases searched : bsearch (fun found => Text.strcasecmp term found.word) subcomponents with
      | none => exact ⟨.invalidKeyword, by decide, rfl⟩
      | some place =>
          rw [searched, Option.bind_some] at refuses
          simp only [refuses]
          exact ⟨.failure, by decide, rfl⟩
  | @value entry type subcomponent branch =>
      rw [descend] at refuses
      split at refuses
      · cases refuses
      · rename_i refused
        rw [ValueType.accepts, Option.isNone_iff_eq_none, ← ne_eq,
          Option.ne_none_iff_exists] at refused
        obtain ⟨error, refused⟩ := refused
        refine ⟨error, check_ne_incomplete refused.symm, ?_⟩
        simp only [fbInterpretRecurse, ← refused]

theorem Sorted.descend {term : Text} {next : Parser doubles} (sorted : Sorted parser)
    (reads : parser.descend term = some next) : Sorted next := by
  cases sorted with
  | undetermined => cases reads
  | openend =>
      cases reads
      exact .openend
  | keyword ascending branches => exact branches next (List.mem_of_find?_eq_some reads)
  | value branch =>
      rw [Parser.descend] at reads
      split at reads
      · cases reads
        exact branch
      · cases reads

/-- A command whose terms can all be read has the number of the node it leads to. -/
theorem fbInterpretRecurse_arrives {argv : List Text} {index : Nat} {final : Parser doubles}
    (live : Live parser) (sorted : Sorted parser)
    (arrives : (recognizer doubles).arrive parser argv = some final) :
    (fbInterpretRecurse argv index parser).1 =
      if final.response ≠ 0 then final.response else ParseError.incomplete.code := by
  induction argv generalizing parser index with
  | nil =>
      cases arrives
      rw [fbInterpretRecurse]
      split <;> rfl
  | cons term argv ih =>
      obtain ⟨next, reads, onward⟩ := Option.bind_eq_some_iff.mp arrives
      rcases fbInterpretRecurse_reads sorted reads argv index with ⟨entry, rfl⟩ | same
      · rw [arrive_openend] at arrives
        cases arrives
        cases live with
        | openend completes => exact (if_pos completes.ne').symm
      · rw [same]
        exact ih (live.descend reads) (sorted.descend reads) onward

/-- A command that cannot be read to its end is refused at the first term that cannot be read. -/
theorem fbInterpretRecurse_stops {argv : List Text} {index : Nat} (sorted : Sorted parser)
    (stops : (recognizer doubles).arrive parser argv = none) :
    ∃ error : ParseError, error ≠ .incomplete ∧ fbInterpretRecurse argv index parser =
      (error.code, .term (index + (recognizer doubles).progress parser argv)) := by
  induction argv generalizing parser index with
  | nil => cases stops
  | cons term argv ih =>
      rw [Recognizer.arrive] at stops
      rw [Recognizer.progress]
      cases reads : (recognizer doubles).read parser term with
      | none => exact fbInterpretRecurse_refuses sorted reads argv index
      | some next =>
          rw [reads] at stops
          rcases fbInterpretRecurse_reads sorted reads argv index with ⟨entry, rfl⟩ | same
          · cases reads
            rw [Option.bind_some, arrive_openend] at stops
            cases stops
          · obtain ⟨error, other, refused⟩ := @ih next (index + 1) (sorted.descend reads) stops
            refine ⟨error, other, ?_⟩
            rw [same, refused, Nat.add_right_comm]
            rfl

/-- The commands that are interpreted as some number are those that the tree accepts. -/
theorem fbInterpret_pos_iff (live : Live parser) (sorted : Sorted parser) (argv : List Text) :
    0 < (fbInterpret parser argv).1 ↔ (recognizer doubles).Accepts parser argv := by
  rw [fbInterpret]
  cases arrives : (recognizer doubles).arrive parser argv with
  | none =>
      obtain ⟨error, -, refused⟩ := @fbInterpretRecurse_stops _ _ argv 0 sorted arrives
      rw [refused]
      refine iff_of_false (Int.not_lt.mpr error.code_nonpos) ?_
      · rintro ⟨final, found, -⟩
        rw [arrives] at found
        cases found
  | some final =>
      rw [fbInterpretRecurse_arrives live sorted arrives]
      constructor
      · intro positive
        refine ⟨final, arrives, ?_⟩
        split at positive
        · exact positive
        · exact absurd positive (by decide)
      · rintro ⟨other, found, completes⟩
        cases arrives.symm.trans found
        rw [if_pos completes.ne']
        exact completes

end Parser

/-! ## Errors of a parser -/

/-- A command that the parser has a number for. -/
def AcceptsCommand (parser : Parser doubles) (argv : List Text) : Prop :=
  0 < (fbInterpret parser argv).1

/-- Terms that are accepted or that others can follow so that they are. -/
def Continues (parser : Parser doubles) (argv : List Text) : Prop :=
  ∃ more, AcceptsCommand parser (argv ++ more)

/-- Alternatives of a pattern hold at least one word each. -/
def NonemptyAlternations (definition : ParseDefinition) : Prop :=
  ∀ word ∈ patternWords definition.statement, isAlternation word = true → choiceWords word ≠ []

namespace Parser

variable {parser after : Parser doubles}

/-- Adding definitions to a live node leaves it live; if there are any, they make one of a fresh
node. -/
theorem run_addDefinition_live {agrees : ValueType doubles → ValueType doubles → Bool}
    {definitions : List ParseDefinition} {before : Parser doubles}
    (positive : ∀ definition ∈ definitions, 0 < definition.response)
    (nonempty : ∀ definition ∈ definitions, NonemptyAlternations definition)
    (start : Live before ∨ Growing before ∧ definitions ≠ [])
    (added : FallibleRun.run (addDefinition agrees) before definitions = .ok after) :
    Live after := by
  induction definitions generalizing before with
  | nil =>
      cases added
      exact start.resolve_right fun empty => empty.2 rfl
  | cons definition definitions ih =>
      obtain ⟨next, first, rest⟩ := FallibleRun.run_cons_ok_iff.mp added
      have growing : Growing before := start.elim .live And.left
      have grown := fbParserAdd_grown agrees (positive definition List.mem_cons_self)
        (nonempty definition List.mem_cons_self) before next growing first
      exact ih (fun other member => positive other (List.mem_cons_of_mem _ member))
        (fun other member => nonempty other (List.mem_cons_of_mem _ member)) (.inl grown.live) rest

/-- A parser to which definitions were added in any batches is live and sorted. -/
theorem run_addStatements_live {agrees : ValueType doubles → ValueType doubles → Bool}
    {batches : List (List ParseDefinition)} {before : Parser doubles}
    (positive : ∀ definition ∈ batches.flatten, 0 < definition.response)
    (nonempty : ∀ definition ∈ batches.flatten, NonemptyAlternations definition)
    (start : Live before ∧ Sorted before ∨
      before = fbCreateParser doubles ∧ batches.flatten ≠ [])
    (added : FallibleRun.run (addStatements agrees) before batches = .ok after) :
    Live after ∧ Sorted after := by
  induction batches generalizing before with
  | nil =>
      cases added
      exact start.resolve_right fun empty => empty.2 rfl
  | cons batch batches ih =>
      obtain ⟨sorted, first, rest⟩ := FallibleRun.run_cons_ok_iff.mp added
      obtain ⟨next, run, rfl⟩ := FallibleRun.map_ok_iff.mp first
      rw [List.flatten_cons] at positive nonempty start
      have later := @ih (fbSortAll next)
        (fun other member => positive other (List.mem_append_right _ member))
        (fun other member => nonempty other (List.mem_append_right _ member))
      have live (grows : Live before ∨ Growing before ∧ batch ≠ []) : Live next :=
        run_addDefinition_live (fun other member => positive other (List.mem_append_left _ member))
          (fun other member => nonempty other (List.mem_append_left _ member)) grows run
      rcases start with ⟨alive, -⟩ | ⟨rfl, some⟩
      · exact later (.inl ⟨(live (.inl alive)).sorted, (live (.inl alive)).ascends⟩) rest
      · cases batch with
        | nil =>
            cases run
            exact later (.inr ⟨rfl, some⟩) rest
        | cons definition definitions =>
            have alive := live (.inr ⟨growing_fresh none false, List.cons_ne_nil _ _⟩)
            exact later (.inl ⟨alive.sorted, alive.ascends⟩) rest

theorem continues_iff_extensible (live : Live parser) (sorted : Sorted parser) (argv : List Text) :
    Continues parser argv ↔ (recognizer doubles).Extensible parser argv :=
  exists_congr fun more => fbInterpret_pos_iff live sorted (argv ++ more)

end Parser

/-- Whatever definitions with numbers above zero the parser takes, in any batches, a command is
incomplete if and only if it can be continued to one that is accepted; any other error points to the
first term with which no accepted command can go on. -/
theorem fbInterpret_error {batches : List (List ParseDefinition)} {parser : Parser doubles}
    (some : batches.flatten ≠ [])
    (positive : ∀ definition ∈ batches.flatten, 0 < definition.response)
    (nonempty : ∀ definition ∈ batches.flatten, NonemptyAlternations definition)
    (added : FallibleRun.run fbParserAddStatements (fbCreateParser doubles) batches = .ok parser)
    {argv : List Text} (rejected : ¬AcceptsCommand parser argv) :
    ((fbInterpret parser argv).1 = ParseError.incomplete.code ↔ Continues parser argv) ∧
      ((fbInterpret parser argv).1 ≠ ParseError.incomplete.code →
        ∃ index < argv.length, (fbInterpret parser argv).2 = .term index ∧
          Continues parser (argv.take index) ∧ ¬Continues parser (argv.take (index + 1))) := by
  obtain ⟨live, sorted⟩ := Parser.run_addStatements_live positive nonempty
    (.inr ⟨rfl, some⟩) added
  rw [Parser.continues_iff_extensible live sorted]
  cases arrives : (Parser.recognizer doubles).arrive parser argv with
  | none =>
      obtain ⟨error, other, refused⟩ :=
        @Parser.fbInterpretRecurse_stops _ _ argv 0 sorted arrives
      obtain ⟨inside, viable, stuck⟩ := live.productive.progress_exact arrives
      rw [fbInterpret, refused, live.productive.extensible_iff, arrives]
      refine ⟨iff_of_false (fun same => other (ParseError.code_inj same)) ?_, fun _ =>
        ⟨_, inside, ?_, ?_, ?_⟩⟩
      · rintro ⟨next, found⟩
        cases found
      · rw [Nat.zero_add]
      · exact (Parser.continues_iff_extensible live sorted _).mpr viable
      · exact fun continues => stuck ((Parser.continues_iff_extensible live sorted _).mp continues)
  | some final =>
      have known := @Parser.fbInterpretRecurse_arrives _ _ argv 0 _ live sorted arrives
      have incomplete : (fbInterpret parser argv).1 = ParseError.incomplete.code := by
        rw [AcceptsCommand, fbInterpret, known] at rejected
        rw [fbInterpret, known]
        split
        · rename_i responds
          rw [if_pos responds] at rejected
          have reached : Parser.Live final := Recognizer.closed_arrive
            (fun _ _ _ live reads => Parser.Live.descend live reads) live arrives
          exact absurd (lt_of_le_of_ne reached.responds (Ne.symm responds)) rejected
        · rfl
      exact ⟨iff_of_true incomplete ((live.productive.extensible_iff argv).mpr ⟨final, arrives⟩),
        fun other => absurd incomplete other⟩

/-- Two commands that begin alike. -/
def samplePlay : List ParseDefinition :=
  [⟨1, ascii "play [now]"⟩, ⟨2, ascii "play station \x7bstation\x7d"⟩]

/-- A command that neither allows is refused at its second term. -/
theorem fbInterpret_error_samplePlay : ∃ parser,
    FallibleRun.run fbParserAddStatements (fbCreateParser noDoubles) [samplePlay] = .ok parser ∧
      ∃ index < 2, (fbInterpret parser [ascii "play", ascii "jazz"]).2 = .term index ∧
        Continues parser ([ascii "play", ascii "jazz"].take index) ∧
        ¬Continues parser ([ascii "play", ascii "jazz"].take (index + 1)) := by
  obtain ⟨parser, added, refused⟩ : ∃ parser,
      FallibleRun.run fbParserAddStatements (fbCreateParser noDoubles) [samplePlay] = .ok parser ∧
        fbInterpret parser [ascii "play", ascii "jazz"] =
          (ParseError.invalidKeyword.code, .term 1) := ⟨_, rfl, rfl⟩
  have nonempty : ∀ definition ∈ [samplePlay].flatten, NonemptyAlternations definition := by
    unfold NonemptyAlternations
    decide
  have rejected : ¬AcceptsCommand parser [ascii "play", ascii "jazz"] := by
    rw [AcceptsCommand, refused]
    decide
  refine ⟨parser, added, (fbInterpret_error ?_ ?_ nonempty added rejected).2 ?_⟩
  · decide
  · decide
  · rw [refused]
    decide

end Football
