import Pianod.Foundation.MachineInt
import Pianod.Foundation.Text

/-!
# Splitting a command line

A command line is split at whitespace into terms.  A term that starts with a quote extends to the
next quote at the end of a word and may hold whitespace.  Each term comes with the rest of the line
from where the term starts.  Before that the words between whitespace are counted in an `int`, for
the size of an array that holds the terms.
-/

namespace Football

open Foundation

/-- The quote that encloses terms. -/
def quote : UInt8 := 34

/-- A term of a command line and the line from there on. -/
structure Term where
  word : Text
  remainder : Text
deriving DecidableEq, Repr

/-- Whether a word may end here. -/
def endsWord : Text → Bool
  | [] => true
  | byte :: _ => isspace byte

/-- The inside of a quoted term, and what follows its closing quote. -/
def quotedTerm : Text → Text × Text
  | [] => ([], [])
  | byte :: text =>
      if byte == quote && endsWord text then ([], text)
      else (byte :: (quotedTerm text).1, (quotedTerm text).2)

/-- A plain term, and what follows the whitespace byte after it. -/
def plainTerm (text : Text) : Text × Text :=
  (text.takeWhile fun byte => !isspace byte, (text.dropWhile fun byte => !isspace byte).drop 1)

/-- The terms of a line that starts with a term; each uses up a byte of fuel. -/
def splitTerms : Nat → Text → List Term
  | 0, _ => []
  | _, [] => []
  | fuel + 1, byte :: text =>
      let (word, rest) := if byte == quote then quotedTerm text else plainTerm (byte :: text)
      ⟨word, byte :: text⟩ :: splitTerms fuel (rest.dropWhile isspace)

/-- The terms of a command line. -/
def commandTerms (commandline : Text) : List Term :=
  splitTerms commandline.length (commandline.dropWhile isspace)

example : (commandTerms (ascii " say \"hello  world\" it\"s ")).map Term.word =
    [ascii "say", ascii "hello  world", ascii "it\"s"] := by decide

/-! ## The array for them -/

/-- Which of the allocations succeed. -/
structure ArgvMemory where
  /-- The copy of the line. -/
  strdup : Bool
  /-- The array for the terms and the remainders. -/
  calloc : Bool
deriving DecidableEq, Repr

/-- There is memory for both. -/
def ArgvMemory.plenty : ArgvMemory := ⟨true, true⟩

/-- Count the words between whitespace. -/
def countTerms : Nat → Nat → Text → Except Fault Nat
  | 0, wordcount, _ => .ok wordcount
  | fuel + 1, wordcount, text =>
      if text = [] then .ok wordcount
      else
        match MachineInt.counted (wordcount + 1) with
        | .error fault => .error fault
        | .ok wordcount =>
            countTerms fuel wordcount ((text.dropWhile fun byte => !isspace byte).dropWhile isspace)

/-- Create the terms of a command line, unless there is no memory for them. -/
def createArgv (memory : ArgvMemory) (commandline : Text) : Except Fault (Option (List Term)) := do
  let line := commandline.dropWhile isspace
  if !memory.strdup then return none
  let wordcount ← countTerms line.length 0 line
  let size ← MachineInt.counted (wordcount + 1)
  let _ ← MachineInt.counted (size * 2)
  if !memory.calloc then return none
  return some (commandTerms commandline)

end Football
