import Mathlib.Data.List.Sort
import Pianod.Foundation.Search
import Pianod.Football.Argv
import Pianod.Football.FillIn

/-!
# The command parser

Command patterns are merged into a tree.  Each node stands for the terms read so far and knows the
command that is complete there, if one is, and how to go on.  Adding patterns searches a node's
keywords one by one; once all are added, they are sorted and found by binary search.
-/

namespace Football

open Foundation

/-- What every node of the parse tree holds. -/
structure ParserEntry where
  /-- The term or `{valuename}` that leads to the node; the root has none. -/
  word : Option Text
  /-- The name of the keywords or of the value that follow. -/
  name : Option Text
  /-- Whether the keyword that leads to the node belongs to a named choice. -/
  isNamed : Bool
  /-- The command that is complete here, or zero. -/
  response : Int
deriving DecidableEq, Repr

/-- The parse tree.  Any given node is followed by nothing yet, keywords, one value or anything. -/
inductive Parser (doubles : Doubles) where
  | undetermined (entry : ParserEntry)
  | keyword (entry : ParserEntry) (subcomponents : List (Parser doubles))
  | value (entry : ParserEntry) (type : ValueType doubles) (subcomponent : Parser doubles)
  | openend (entry : ParserEntry)

/-- One command pattern and its number. -/
structure ParseDefinition where
  response : Int
  statement : Text
deriving DecidableEq, Repr

variable {doubles : Doubles}

namespace Parser

def entry : Parser doubles → ParserEntry
  | undetermined entry => entry
  | keyword entry _ => entry
  | value entry _ _ => entry
  | openend entry => entry

/-- The term that leads to a node; only the root has none, and it is never compared. -/
def word (parser : Parser doubles) : Text := parser.entry.word.getD []

def response (parser : Parser doubles) : Int := parser.entry.response

/-- Make a command complete at a node. -/
def complete (response : Int) : Parser doubles → Parser doubles
  | undetermined entry => undetermined { entry with response := response }
  | keyword entry subcomponents => keyword { entry with response := response } subcomponents
  | value entry type subcomponent => value { entry with response := response } type subcomponent
  | openend entry => openend { entry with response := response }

/-- A node that nothing follows yet. -/
def fresh (word : Option Text) (isNamed : Bool) : Parser doubles :=
  undetermined ⟨word, none, isNamed, 0⟩

end Parser

/-- A new, empty parser. -/
def fbCreateParser (doubles : Doubles) : Parser doubles := .fresh none false

/-! ## Words of a pattern -/

/-- The words of a statement, from left to right. -/
def patternWords (statement : Text) : List Text := (commandTerms statement).map Term.word

/-- An optional blank, `[{value}]`. -/
def isOptionalBlank (word : Text) : Bool :=
  word[0]? == some 91 && word[1]? == some 123 && word[word.length - 2]? == some 125 &&
    word.getLast? == some 93

/-- A blank, `{value}`. -/
def isBlank (word : Text) : Bool := word.head? == some 123 && word.getLast? == some 125

/-- Required alternatives, `<one|two>`. -/
def isAlternation (word : Text) : Bool := word.head? == some 60 && word.getLast? == some 62

/-- Optional keywords, `[four|five]`. -/
def isOptional (word : Text) : Bool := word.head? == some 91 && word.getLast? == some 93

/-- The word that allows anything to follow, `...`. -/
def ellipsis : Text := ascii "..."

/-- What is between a word's brackets. -/
def insideBrackets (word : Text) : Text := (word.drop 1).dropLast

/-- The words of a choice, after its name if it has one; those of zero length are left out. -/
def choiceWords (word : Text) : List Text :=
  let inside := insideBrackets word
  let words := (afterFirst 58 inside).getD inside
  ((Text.splitLines 124 words).1 ++ [(Text.splitLines 124 words).2]).filter (· ≠ [])

/-- The name of a choice.  One without a name of its own gets what is before its first bar, since
that is where the code has cut the text by the time the name is looked at. -/
def choiceName (word : Text) : Text :=
  if 58 ∈ insideBrackets word then before 58 (insideBrackets word)
  else before 124 (insideBrackets word)

/-- The text by which a value is called in errors: its blank without the range. -/
def blankWord (blankname : Text) : Text :=
  if 58 ∈ blankname then before 58 blankname ++ [125] else blankname

/-- An optional blank is the last word, or only `...` follows. -/
def misplacesOptional : List Text → Bool
  | [] => false
  | [word] => Text.strcasecmp word ellipsis ≠ .eq
  | _ => true

/-! ## Adding patterns -/

/-- Whether a name is used that the node does not have; the names of its keywords have to agree. -/
def nameConflict (known name : Option Text) : Bool :=
  match known, name with
  | some known, some name => known ≠ name
  | _, _ => false

/-- Add a keyword branch to a node that keywords follow, and go on there. -/
def fbParserAddKeyword (entry : ParserEntry) (subcomponents : List (Parser doubles))
    (keyword : Text) (name : Option Text)
    (add : Parser doubles → Except Fault (Parser doubles)) : Except Fault (Parser doubles) :=
  if nameConflict entry.name name then .error (.assertion "0")
  else
    let entry := { entry with name := entry.name.or name }
    -- See if this word already exists.
    match subcomponents.findIdx? fun found => Text.strcasecmp keyword found.word = .eq with
    | none => (add (.fresh (some keyword) name.isSome)).map fun found =>
        .keyword entry (subcomponents ++ [found])
    | some index =>
        match subcomponents[index]? with
        | none => .error .outOfBounds
        | some found =>
            if found.entry.isNamed ≠ name.isSome then
              .error (.assertion "found->is_named == (name != NULL)")
            else (add found).map fun found => .keyword entry (subcomponents.set index found)

/-- Add keyword branches to a node. -/
def addChoice (name : Text) (add : Parser doubles → Except Fault (Parser doubles)) :
    List Text → Parser doubles → Except Fault (Parser doubles)
  | keyword :: keywords, .keyword entry subcomponents =>
      match fbParserAddKeyword entry subcomponents keyword (some name) add with
      | .error fault => .error fault
      | .ok parser => addChoice name add keywords parser
  -- Only nodes that keywords follow get here.
  | _, parser => .ok parser

/-- Whether a blank's name is the one its node has. -/
def sameBlankName : Option Text → Option Text → Except Fault Unit
  | none, none => .ok ()
  | some _, none => .error (.assertion "!parser->name")
  | none, some _ => .error .nullDereference
  | some known, some name =>
      if known = name then .ok ()
      else .error (.assertion "strncmp (parser->name, startname, namelength) == 0")

/-- Add a blank to a node, and go on there.  A parameter tells which blanks may share a node. -/
def fbParserAddFillIn (agrees : ValueType doubles → ValueType doubles → Bool)
    (parser : Parser doubles) (blankname : Text)
    (add : Parser doubles → Except Fault (Parser doubles)) : Except Fault (Parser doubles) :=
  match blankType doubles blankname, blankName blankname with
  | .error fault, _ => .error fault
  | .ok _, .error fault => .error fault
  | .ok type, .ok name =>
      match parser with
      | .value entry known subcomponent =>
          -- Make sure the existing parser item is the same as the new one.
          if agrees known type = false then .error (.assertion "parser->value_type == value_type")
          else match sameBlankName entry.name name with
            | .error fault => .error fault
            | .ok _ => (add subcomponent).map (.value entry known ·)
      | .undetermined entry =>
          (add (.fresh (some (blankWord blankname)) false)).map
            (.value { entry with name := name } type ·)
      | _ => .error (.assertion "0")

/-- A node that keywords may follow. -/
def keywordNode : Parser doubles → Except Fault (ParserEntry × List (Parser doubles))
  | .undetermined entry => .ok (entry, [])
  | .keyword entry subcomponents => .ok (entry, subcomponents)
  | _ => .error (.assertion "0")

/-- Add the keywords that a word stands for below a node that keywords follow, and go on there.  If
they are optional, what follows goes on at the node itself as well. -/
def addKeywords (entry : ParserEntry) (subcomponents : List (Parser doubles)) (word : Text)
    (add : Parser doubles → Except Fault (Parser doubles)) : Except Fault (Parser doubles) :=
  if isOptional word then
    match add (.keyword entry subcomponents) with
    | .error fault => .error fault
    | .ok parser => addChoice (choiceName word) add (choiceWords word) parser
  else if isAlternation word then
    addChoice (choiceName word) add (choiceWords word) (.keyword entry subcomponents)
  else fbParserAddKeyword entry subcomponents word none add

/-- Let anything follow a node; what the pattern has after that is not looked at. -/
def addOpenEnd (response : Int) : Parser doubles → Except Fault (Parser doubles)
  | .undetermined entry =>
      if entry.response ≠ 0 then .error (.assertion "0")
      else .ok (.openend { entry with response := response })
  | _ => .error (.assertion "0")

/-- Add the words of a pattern below a node. -/
def fbParserAdd (agrees : ValueType doubles → ValueType doubles → Bool) (response : Int) :
    List Text → Parser doubles → Except Fault (Parser doubles)
  | [], parser =>
      if parser.response ≠ 0 then .error (.assertion "0") else .ok (parser.complete response)
  | word :: argv, parser =>
      if isOptionalBlank word then
        if misplacesOptional argv then .error (.assertion "0")
        else if parser.response ≠ 0 then .error (.assertion "0")
        else fbParserAddFillIn agrees (parser.complete response) (insideBrackets word)
          (fbParserAdd agrees response argv)
      else if word = ellipsis then addOpenEnd response parser
      else if isBlank word then
        fbParserAddFillIn agrees parser word (fbParserAdd agrees response argv)
      else match keywordNode parser with
        | .error fault => .error fault
        | .ok (entry, subcomponents) =>
            addKeywords entry subcomponents word (fbParserAdd agrees response argv)

/-! ## Sorting -/

/-- The comparison of nodes by their words. -/
def fbParseCompare (first second : Parser doubles) : Ordering :=
  Text.strcasecmp first.word second.word

/-- Sort nodes by their words. -/
def sortWords (subcomponents : List (Parser doubles)) : List (Parser doubles) :=
  subcomponents.insertionSort fun first second => (fbParseCompare first second).isLE = true

mutual

/-- Sort the keywords of every node.  The words below a node do not matter for its own place, so
they may be sorted first. -/
def fbSortAll : Parser doubles → Parser doubles
  | .undetermined entry => .undetermined entry
  | .keyword entry subcomponents => .keyword entry (sortWords (sortEach subcomponents))
  | .value entry type subcomponent => .value entry type (fbSortAll subcomponent)
  | .openend entry => .openend entry

def sortEach : List (Parser doubles) → List (Parser doubles)
  | [] => []
  | parser :: parsers => fbSortAll parser :: sortEach parsers

end

/-- Add the pattern of one definition. -/
def addDefinition (agrees : ValueType doubles → ValueType doubles → Bool)
    (parser : Parser doubles) (definition : ParseDefinition) : Except Fault (Parser doubles) :=
  fbParserAdd agrees definition.response (patternWords definition.statement) parser

/-- Add statements to the parser, with blanks sharing nodes as a parameter allows. -/
def addStatements (agrees : ValueType doubles → ValueType doubles → Bool)
    (parser : Parser doubles) (definitions : List ParseDefinition) :
    Except Fault (Parser doubles) :=
  (FallibleRun.run (addDefinition agrees) parser definitions).map fbSortAll

/-- Add statements to the parser. -/
def fbParserAddStatements (parser : Parser doubles) (definitions : List ParseDefinition) :
    Except Fault (Parser doubles) := addStatements ValueType.agrees parser definitions

/-! ## Interpreting a command -/

/-- Where an error points: at a term of the command, or at the name of a term that is missing. -/
inductive ErrorTerm where
  | term (index : Nat)
  | missing (word : Option Text)
deriving DecidableEq, Repr

/-- Interpret the terms of a command from a node on; the terms before are counted. -/
def fbInterpretRecurse : List Text → Nat → Parser doubles → Int × ErrorTerm
  | [], index, parser =>
      if parser.response ≠ 0 then (parser.response, .term index)
      else (ParseError.incomplete.code, .missing parser.entry.word)
  | term :: argv, index, parser =>
      match parser with
      | .undetermined _ => (ParseError.extraTerms.code, .term index)
      | .openend entry => (entry.response, .term index)
      | .keyword _ subcomponents =>
          match bsearch (fun found => Text.strcasecmp term found.word) subcomponents with
          | none => (ParseError.invalidKeyword.code, .term index)
          | some place =>
              match subcomponents[place]? with
              | none => (ParseError.failure.code, .term index)
              | some found => fbInterpretRecurse argv (index + 1) found
      | .value _ type subcomponent =>
          match type.check term with
          | some error => (error.code, .term index)
          | none => fbInterpretRecurse argv (index + 1) subcomponent

/-- The command number of a command, or what is wrong with it. -/
def fbInterpret (parser : Parser doubles) (argv : List Text) : Int × ErrorTerm :=
  fbInterpretRecurse argv 0 parser

end Football
