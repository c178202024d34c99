import Pianod.Football.WholeNumbers
import Pianod.Server.CommandTable

/-!
# The grammar of the commands

Whatever the server is built with, its statements can all be added to one parser, and the parser
then has a number for just the commands that the patterns allow.
-/

namespace Pianod

open Foundation Football

variable {features : Features} {statement : Statement}

/-- Whatever else is compiled in adds statements. -/
theorem mem_allStatements (member : statement ∈ (allStatements features).flatten) :
    statement ∈ (allStatements ⟨true, true⟩).flatten := by
  obtain ⟨capture, shout⟩ := features
  simp only [allStatements, adminStatements, List.flatten_cons, List.mem_append] at member ⊢
  cases capture <;> cases shout <;> simp only [Bool.false_eq_true, if_true,
    if_false] at member ⊢ <;>
    grind

theorem words_allStatements : ∀ statement ∈ (allStatements ⟨true, true⟩).flatten,
    ∀ word ∈ patternWords statement.pattern,
      Whole word ∧ (isAlternation word = true → choiceWords word ≠ []) := by
  decide +kernel

private theorem run_commandSets : ∀ enableCapture enableShout : Bool,
    (FallibleRun.run (addStatements ValueType.agreesInRadix) (fbCreateParser noDoubles)
      (commandSets ⟨enableCapture, enableShout⟩)).toBool = true := by
  decide +kernel

theorem mem_commandSets {definition : ParseDefinition}
    (member : definition ∈ (commandSets features).flatten) :
    ∃ statement ∈ (allStatements features).flatten, statement.definition features = definition := by
  rw [commandSets, ← List.map_flatten] at member
  exact List.mem_map.mp member

theorem wholeNumbers_commandSets : WholeNumbers (commandSets features).flatten := by
  intro definition member word within
  obtain ⟨statement, listed, rfl⟩ := mem_commandSets member
  exact (words_allStatements statement (mem_allStatements listed) word within).1

private theorem nonempty_commandSets :
    ∀ definition ∈ (commandSets features).flatten, NonemptyAlternations definition := by
  intro definition member word within
  obtain ⟨statement, listed, rfl⟩ := mem_commandSets member
  exact (words_allStatements statement (mem_allStatements listed) word within).2

theorem MyCommand.number_pos (features : Features) (command : MyCommand) :
    0 < command.number features := by
  unfold MyCommand.number
  omega

private theorem positive_commandSets :
    ∀ definition ∈ (commandSets features).flatten, 0 < definition.response := by
  intro definition member
  obtain ⟨statement, -, rfl⟩ := mem_commandSets member
  exact statement.command.number_pos features

/-- The server always gets its parser, and the parser recognises the declared grammar. -/
theorem initParser_recognises (doubles : Doubles) (features : Features) : ∃ parser,
    initParser doubles features = .ok parser ∧
      RecognisesGrammar parser (commandSets features).flatten := by
  obtain ⟨enableCapture, enableShout⟩ := features
  have accepted := run_commandSets enableCapture enableShout
  cases run : FallibleRun.run (addStatements ValueType.agreesInRadix) (fbCreateParser noDoubles)
      (commandSets ⟨enableCapture, enableShout⟩) with
  | error fault =>
      rw [run] at accepted
      cases accepted
  | ok parser =>
      have built := @run_addStatements_transfer doubles _ _ permits_agrees _
        wholeNumbers_commandSets _ _ run
      have strict := @run_addStatements_transfer doubles _ _ permits_agreesInRadix _
        wholeNumbers_commandSets _ _ run
      rw [fbCreateParser, Parser.transfer_fresh] at built strict
      exact ⟨_, built, (recognisesGrammar_iff positive_commandSets nonempty_commandSets built).mpr
        ⟨_, strict⟩⟩

/-! ## Numbers -/

private theorem declared_of_listed : ∀ enableCapture enableShout : Bool,
    ∀ statement ∈ (allStatements ⟨enableCapture, enableShout⟩).flatten,
      statement.command ∈ MyCommand.declared ⟨enableCapture, enableShout⟩ := by
  decide +kernel

theorem Statement.declared (member : statement ∈ (allStatements features).flatten) :
    statement.command ∈ MyCommand.declared features :=
  declared_of_listed features.enableCapture features.enableShout statement member

/-- Commands that are compiled in have numbers of their own. -/
theorem MyCommand.number_inj {command other : MyCommand} (declared : command ∈ declared features) :
    command.number features = other.number features ↔ command = other := by
  unfold MyCommand.number
  rw [add_left_inj, Int.natCast_inj, List.idxOf_inj declared]

/-- The commands with a number are the ones that its patterns allow. -/
theorem fbInterpret_number_iff {doubles : Doubles} {parser : Parser doubles}
    (built : initParser doubles features = .ok parser) (command : MyCommand) (argv : List Text) :
    (fbInterpret parser argv).1 = command.number features ↔
      ∃ statement ∈ (allStatements features).flatten, statement.command = command ∧
        Matches doubles (patternWords statement.pattern) argv := by
  obtain ⟨other, same, recognises⟩ := initParser_recognises doubles features
  cases built.symm.trans same
  rw [recognises.exact argv _ (command.number_pos features)]
  constructor
  · rintro ⟨definition, member, number, allowed⟩
    obtain ⟨statement, listed, rfl⟩ := mem_commandSets member
    exact ⟨statement, listed, (MyCommand.number_inj (statement.declared listed)).mp number, allowed⟩
  · rintro ⟨statement, listed, rfl, allowed⟩
    refine ⟨statement.definition features, ?_, rfl, allowed⟩
    rw [commandSets, ← List.map_flatten]
    exact List.mem_map_of_mem listed

end Pianod
