import Pianod.Foundation.ViablePrefix
import Pianod.Football.Parser

/-!
# Parse trees

Every node of a tree that patterns were added to leads to a complete command, and the keywords that
follow a node are all different.  In such a tree the terms of a command are read one at a time, and
sorting the keywords changes nothing.
-/

namespace Football

open Foundation

variable {doubles : Doubles}

namespace Parser

/-- The node that a term leads to. -/
def descend : Parser doubles → Text → Option (Parser doubles)
  | undetermined _, _ => none
  | keyword _ subcomponents, term =>
      subcomponents.find? fun found => Text.strcasecmp term found.word = .eq
  | value _ type subcomponent, term => if type.accepts term then some subcomponent else none
  | openend entry, _ => some (openend entry)

/-- The tree as a recognizer of commands. -/
def recognizer (doubles : Doubles) : Recognizer (Parser doubles) Text where
  read := descend
  accepts := fun parser => 0 < parser.response

/-- No two nodes have the same word. -/
def Distinct (subcomponents : List (Parser doubles)) : Prop :=
  subcomponents.Pairwise fun first second => fbParseCompare first second ≠ .eq

/-- A node below which every branch ends in a complete command. -/
inductive Live : Parser doubles → Prop
  | undetermined {entry : ParserEntry} (completes : 0 < entry.response) :
      Live (.undetermined entry)
  | keyword {entry : ParserEntry} {subcomponents : List (Parser doubles)}
      (responds : 0 ≤ entry.response) (distinct : Distinct subcomponents)
      (continues : 0 < entry.response ∨ subcomponents ≠ [])
      (branches : ∀ found ∈ subcomponents, Live found) : Live (.keyword entry subcomponents)
  | value {entry : ParserEntry} {type : ValueType doubles} {subcomponent : Parser doubles}
      (responds : 0 ≤ entry.response) (branch : Live subcomponent) :
      Live (.value entry type subcomponent)
  | openend {entry : ParserEntry} (completes : 0 < entry.response) : Live (.openend entry)

/-- A node to which a pattern may be added. -/
inductive Growing : Parser doubles → Prop
  | fresh {entry : ParserEntry} (responds : entry.response = 0) : Growing (.undetermined entry)
  | keyword {entry : ParserEntry} {subcomponents : List (Parser doubles)}
      (responds : 0 ≤ entry.response) (distinct : Distinct subcomponents)
      (branches : ∀ found ∈ subcomponents, Live found) : Growing (.keyword entry subcomponents)
  | live {parser : Parser doubles} (live : Live parser) : Growing parser

/-- What adding a pattern makes of a node. -/
structure Grown (before after : Parser doubles) : Prop where
  live : Live after
  word : after.entry.word = before.entry.word

/-- An addition that makes live nodes of growing ones. -/
def Grows (add : Parser doubles → Except Fault (Parser doubles)) : Prop :=
  ∀ before after, Growing before → add before = .ok after → Grown before after

/-! ## Reading commands -/

variable {parser : Parser doubles}

theorem Live.responds (live : Live parser) : 0 ≤ parser.response := by
  cases live with
  | undetermined completes => exact completes.le
  | keyword responds => exact responds
  | value responds => exact responds
  | openend completes => exact completes.le

/-- What a term leads to is live. -/
theorem Live.descend {term : Text} {next : Parser doubles} (live : Live parser)
    (reads : parser.descend term = some next) : Live next := by
  cases live with
  | undetermined => cases reads
  | keyword responds distinct continues branches =>
      exact branches next (List.mem_of_find?_eq_some reads)
  | value responds branch =>
      rw [Parser.descend] at reads
      split at reads
      · cases reads
        exact branch
      · cases reads
  | openend completes =>
      cases reads
      exact .openend completes

theorem accepts_cons {term : Text} {next : Parser doubles} {more : List Text}
    (reads : parser.descend term = some next) (accepted : (recognizer doubles).Accepts next more) :
    (recognizer doubles).Accepts parser (term :: more) := by
  obtain ⟨final, arrives, completes⟩ := accepted
  refine ⟨final, ?_, completes⟩
  rw [Recognizer.arrive]
  exact Option.bind_eq_some_iff.mpr ⟨next, reads, arrives⟩

theorem accepts_nil (completes : 0 < parser.response) :
    (recognizer doubles).Accepts parser [] := ⟨parser, rfl, completes⟩

/-- Some command is complete below a live node. -/
theorem Live.possible (live : Live parser) : ∃ more, (recognizer doubles).Accepts parser more := by
  induction live with
  | undetermined completes => exact ⟨[], accepts_nil completes⟩
  | openend completes => exact ⟨[], accepts_nil completes⟩
  | @value entry type subcomponent responds branch ih =>
      obtain ⟨term, accepted⟩ := type.exists_accepted
      obtain ⟨more, onward⟩ := ih
      refine ⟨term :: more, accepts_cons ?_ onward⟩
      rw [Parser.descend, if_pos (accepted type (.refl type))]
  | @keyword entry subcomponents responds distinct continues branches ih =>
      cases subcomponents with
      | nil => exact ⟨[], accepts_nil (continues.resolve_right fun some => some rfl)⟩
      | cons found others =>
          have reads :
              (Parser.keyword entry (found :: others)).descend found.word = some found := by
            rw [Parser.descend, List.find?_cons_of_pos]
            exact decide_eq_true (Text.strcasecmp_self found.word)
          obtain ⟨more, onward⟩ := ih found List.mem_cons_self
          exact ⟨found.word :: more, accepts_cons reads onward⟩

/-- Whatever is read in a live tree can be completed. -/
theorem Live.productive (live : Live parser) : (recognizer doubles).Productive parser :=
  Recognizer.productive_of_closed (fun _ _ _ live reads => Live.descend live reads)
    (fun _ live => Live.possible live) live

/-! ## Adding patterns -/

section

variable {add : Parser doubles → Except Fault (Parser doubles)}

theorem growing_fresh (word : Option Text) (isNamed : Bool) :
    Growing (fresh word isNamed : Parser doubles) := .fresh rfl

theorem Distinct.concat {subcomponents : List (Parser doubles)} {found : Parser doubles}
    (distinct : Distinct subcomponents)
    (new : ∀ other ∈ subcomponents, fbParseCompare other found ≠ .eq) :
    Distinct (subcomponents ++ [found]) := by
  refine List.pairwise_append.mpr ⟨distinct, List.pairwise_singleton _ _, ?_⟩
  intro other member last lastMember
  rw [List.mem_singleton.mp lastMember]
  exact new other member

/-- Replacing a node by one with the same word keeps nodes distinct. -/
theorem Distinct.set {subcomponents : List (Parser doubles)} {index : Nat}
    {before after : Parser doubles} (distinct : Distinct subcomponents)
    (there : subcomponents[index]? = some before) (word : after.entry.word = before.entry.word) :
    Distinct (subcomponents.set index after) := by
  have words : (subcomponents.set index after).map Parser.word =
      subcomponents.map Parser.word := by
    rw [List.map_set]
    have same : after.word = before.word := by rw [Parser.word, Parser.word, word]
    obtain ⟨inside, rfl⟩ := List.getElem?_eq_some_iff.mp there
    refine List.ext_getElem (by simp) fun place bound bound' => ?_
    rw [List.getElem_set]
    split
    · rename_i here
      subst here
      simp [same]
    · rfl
  have pairwise {subcomponents : List (Parser doubles)} : Distinct subcomponents ↔
      (subcomponents.map Parser.word).Pairwise fun first second =>
        Text.strcasecmp first second ≠ .eq := by
    rw [List.pairwise_map]
    rfl
  rw [pairwise, words, ← pairwise]
  exact distinct

/-- Adding a keyword makes a node live. -/
theorem fbParserAddKeyword_grown (grows : Grows add) {entry : ParserEntry}
    {subcomponents : List (Parser doubles)} {keyword : Text} {name : Option Text}
    {after : Parser doubles} (responds : 0 ≤ entry.response) (distinct : Distinct subcomponents)
    (branches : ∀ found ∈ subcomponents, Live found)
    (added : fbParserAddKeyword entry subcomponents keyword name add = .ok after) :
    Grown (.keyword entry subcomponents) after := by
  rw [fbParserAddKeyword] at added
  split at added
  · cases added
  · dsimp only at added
    split at added
    · rename_i missed
      obtain ⟨found, grown, rfl⟩ := FallibleRun.map_ok_iff.mp added
      have grew := grows _ found (growing_fresh (some keyword) name.isSome) grown
      have word : found.word = keyword := by
        rw [Parser.word, grew.word]
        rfl
      have others : ∀ other ∈ subcomponents, fbParseCompare other found ≠ .eq := by
        intro other member equal
        have miss := List.findIdx?_eq_none_iff.mp missed other member
        rw [fbParseCompare, word, Std.OrientedCmp.eq_comm] at equal
        rw [equal] at miss
        cases miss
      refine ⟨.keyword responds (distinct.concat others) (.inr (by simp)) ?_, rfl⟩
      intro other member
      rcases List.mem_append.mp member with old | new
      · exact branches other old
      · rw [List.mem_singleton.mp new]
        exact grew.live
    · split at added
      · cases added
      · rename_i index search found there
        split at added
        · cases added
        · obtain ⟨changed, grown, rfl⟩ := FallibleRun.map_ok_iff.mp added
          have grew := grows found changed
            (.live (branches found (List.mem_of_getElem? there))) grown
          refine ⟨.keyword responds (distinct.set there grew.word) (.inr ?_) ?_, rfl⟩
          · intro empty
            have length := congrArg List.length empty
            rw [List.length_set] at length
            have inside := (List.getElem?_eq_some_iff.mp there).1
            rw [length] at inside
            cases inside
          · intro other member
            rcases List.mem_or_eq_of_mem_set member with old | rfl
            · exact branches other old
            · exact grew.live

/-- What is known of a growing node that keywords follow. -/
theorem Growing.keyword_inv {entry : ParserEntry} {subcomponents : List (Parser doubles)}
    (growing : Growing (.keyword entry subcomponents)) :
    0 ≤ entry.response ∧ Distinct subcomponents ∧ ∀ found ∈ subcomponents, Live found := by
  cases growing with
  | keyword responds distinct branches => exact ⟨responds, distinct, branches⟩
  | live live =>
      cases live with
      | keyword responds distinct continues branches => exact ⟨responds, distinct, branches⟩

/-- Adding the words of a choice makes a node live, if there is one or the node is so already. -/
theorem addChoice_grown (grows : Grows add) {name : Text} {words : List Text}
    {before after : Parser doubles} (growing : Growing before)
    (some : Live before ∨ (∃ entry subcomponents, before = .keyword entry subcomponents) ∧
      words ≠ []) (added : addChoice name add words before = .ok after) : Grown before after := by
  induction words generalizing before with
  | nil =>
      have live : Live before := some.resolve_right fun empty => empty.2 rfl
      rw [addChoice] at added
      · cases added
        exact ⟨live, rfl⟩
      · exact fun _ _ _ _ words => nomatch words
  | cons word words ih =>
      have live (other : ∀ entry subcomponents, before ≠ .keyword entry subcomponents) :
          Live before :=
        some.resolve_right fun ⟨⟨entry, subcomponents, same⟩, _⟩ => other entry subcomponents same
      cases before with
      | keyword entry subcomponents =>
          obtain ⟨responds, distinct, branches⟩ := growing.keyword_inv
          rw [addChoice] at added
          split at added
          · cases added
          · rename_i middle first
            have grew := fbParserAddKeyword_grown grows responds distinct branches first
            have grown := ih (.live grew.live) (.inl grew.live) added
            exact ⟨grown.live, grown.word.trans grew.word⟩
      | undetermined entry =>
          cases added
          exact ⟨live fun _ _ same => (nomatch same), rfl⟩
      | value entry type subcomponent =>
          cases added
          exact ⟨live fun _ _ same => (nomatch same), rfl⟩
      | openend entry =>
          cases added
          exact ⟨live fun _ _ same => (nomatch same), rfl⟩

/-- Adding the keywords that a word stands for makes a node live. -/
theorem addKeywords_grown (grows : Grows add) {word : Text} {entry : ParserEntry}
    {subcomponents : List (Parser doubles)} {after : Parser doubles}
    (growing : Growing (.keyword entry subcomponents))
    (nonempty : isAlternation word = true → choiceWords word ≠ [])
    (added : addKeywords entry subcomponents word add = .ok after) :
    Grown (.keyword entry subcomponents) after := by
  rw [addKeywords] at added
  split at added
  · split at added
    · cases added
    · rename_i middle first
      have grew := grows _ _ growing first
      have grown := addChoice_grown grows (.live grew.live) (.inl grew.live) added
      exact ⟨grown.live, grown.word.trans grew.word⟩
  · split at added
    · rename_i alternation
      exact addChoice_grown grows growing (.inr ⟨⟨_, _, rfl⟩, nonempty alternation⟩) added
    · obtain ⟨responds, distinct, branches⟩ := growing.keyword_inv
      exact fbParserAddKeyword_grown grows responds distinct branches added

/-- A node that is given a command keeps its word and its branches. -/
theorem Growing.complete {before : Parser doubles} {response : Int} (growing : Growing before)
    (positive : 0 < response) (free : before.response = 0) :
    Grown before (before.complete response) := by
  cases growing with
  | fresh responds => exact ⟨.undetermined positive, rfl⟩
  | keyword responds distinct branches =>
      exact ⟨.keyword positive.le distinct (.inl positive) branches, rfl⟩
  | live live =>
      cases live with
      | undetermined completes => exact ⟨.undetermined positive, rfl⟩
      | keyword responds distinct continues branches =>
          exact ⟨.keyword positive.le distinct (.inl positive) branches, rfl⟩
      | value responds branch => exact ⟨.value positive.le branch, rfl⟩
      | openend completes => exact ⟨.openend positive, rfl⟩

/-- Adding a blank makes a node live. -/
theorem fbParserAddFillIn_grown {agrees : ValueType doubles → ValueType doubles → Bool}
    (grows : Grows add) {blankname : Text} {before after : Parser doubles}
    (growing : Growing before)
    (added : fbParserAddFillIn agrees before blankname add = .ok after) : Grown before after := by
  rw [fbParserAddFillIn] at added
  split at added
  · cases added
  · cases added
  · split at added
    · rename_i entry known subcomponent
      split at added
      · cases added
      · split at added
        · cases added
        · obtain ⟨changed, grown, rfl⟩ := FallibleRun.map_ok_iff.mp added
          cases growing with
          | live live =>
              cases live with
              | value responds branch =>
                  exact ⟨.value responds (grows _ _ (.live branch) grown).live, rfl⟩
    · rename_i entry
      obtain ⟨changed, grown, rfl⟩ := FallibleRun.map_ok_iff.mp added
      have responds : 0 ≤ entry.response := by
        cases growing with
        | fresh responds => exact responds.ge
        | live live => exact live.responds
      exact ⟨.value responds (grows _ _ (growing_fresh _ _) grown).live, rfl⟩
    · cases added

private theorem addOpenEnd_grown {response : Int} (positive : 0 < response)
    {before after : Parser doubles}
    (added : addOpenEnd response before = .ok after) : Grown before after := by
  cases before with
  | undetermined entry =>
      rw [addOpenEnd] at added
      split at added
      · cases added
      · cases added
        exact ⟨.openend positive, rfl⟩
  | keyword entry subcomponents => cases added
  | value entry type subcomponent => cases added
  | openend entry => cases added

/-- A node that keywords may follow grows further. -/
theorem Growing.keywordNode {before : Parser doubles} {entry : ParserEntry}
    {subcomponents : List (Parser doubles)} (growing : Growing before)
    (node : keywordNode before = .ok (entry, subcomponents)) :
    Growing (.keyword entry subcomponents) ∧ entry.word = before.entry.word := by
  cases before with
  | undetermined entry =>
      cases node
      have responds : 0 ≤ entry.response := by
        cases growing with
        | fresh responds => exact responds.ge
        | live live => exact live.responds
      exact ⟨.keyword responds .nil fun _ member => (nomatch member), rfl⟩
  | keyword entry subcomponents =>
      cases node
      exact ⟨growing, rfl⟩
  | value entry type subcomponent => cases node
  | openend entry => cases node

end

/-- Adding a pattern whose alternations are not empty makes a growing node live. -/
theorem fbParserAdd_grown (agrees : ValueType doubles → ValueType doubles → Bool)
    {response : Int} (positive : 0 < response) {words : List Text}
    (nonempty : ∀ word ∈ words, isAlternation word = true → choiceWords word ≠ []) :
    Grows (fbParserAdd agrees response words) := by
  induction words with
  | nil =>
      intro before after growing added
      rw [fbParserAdd] at added
      split at added
      · cases added
      · rename_i free
        cases added
        exact growing.complete positive (not_not.mp free)
  | cons word words ih =>
      intro before after growing added
      have grows := ih fun other member => nonempty other (List.mem_cons_of_mem word member)
      rw [fbParserAdd] at added
      split at added
      · split at added
        · cases added
        · split at added
          · cases added
          · rename_i free
            have ready := growing.complete positive (not_not.mp free)
            have grown := fbParserAddFillIn_grown grows (.live ready.live) added
            exact ⟨grown.live, grown.word.trans ready.word⟩
      · split at added
        · exact addOpenEnd_grown positive added
        · split at added
          · exact fbParserAddFillIn_grown grows growing added
          · split at added
            · cases added
            · rename_i entry subcomponents node
              obtain ⟨ready, kept⟩ := growing.keywordNode node
              have grown := addKeywords_grown grows ready (nonempty word List.mem_cons_self) added
              exact ⟨grown.live, grown.word.trans kept⟩

end Parser

end Football
