import Pianod.Foundation.MachineInt
import Pianod.Waitress.Chunked

/-!
# Headers of responses

The header of a response is read line by line from a buffer of fixed size that reads fill up.  What
is left of a read goes to the front of the buffer.  The lines that are handled, and the bytes that
are left for the body, do not depend on how the stream is cut into reads.
-/

namespace Waitress

open Foundation

/-- The return codes of the library. -/
inductive Return where
  | err
  | ok
  | cbAbort
  | statusUnknown
  | notfound
  | forbidden
  | badRequest
  | connectRefused
  | sockErr
  | getaddrErr
  | timeout
  | readErr
  | connectionClosed
  | tlsWriteErr
  | tlsReadErr
  | partialFile
  | decodingErr
  | tlsHandshakeErr
  | tlsFingerprintMismatch
deriving DecidableEq, Repr

def bufferSize : Nat := 10 * 1024

/-- What can be read from a connection: the pieces that arrive, and then either its end or an
error. -/
structure Connection where
  arrivals : List Text
  ending : Option Return

namespace Connection

/-- All bytes that arrive. -/
def stream (connection : Connection) : Text := connection.arrivals.flatten

/-- What a read returns when nothing arrives any more. -/
def ended (connection : Connection) : Except Return Text :=
  match connection.ending with
  | none => .ok []
  | some code => .error code

/-- Read some bytes of the first piece that has any. -/
def readPiece (size : Nat) (ending : Option Return) : List Text → Except Return Text × Connection
  | [] => (Connection.ended ⟨[], ending⟩, ⟨[], ending⟩)
  | piece :: arrivals =>
      if piece = [] then readPiece size ending arrivals
      else (.ok (piece.take size), ⟨piece.drop size :: arrivals, ending⟩)

def read (size : Nat) (connection : Connection) : Except Return Text × Connection :=
  readPiece size connection.ending connection.arrivals

end Connection

/-- The first line of what is in the buffer, and the offset of the next one. -/
def getline (str : Text) : Option (Text × Nat) :=
  (Text.strchr str 10).map fun eol =>
    let line := str.take eol
    (if line.getLast? = some 13 then line.dropLast else line, eol + 1)

/-- The status that is read from the first line, or a negative number. -/
def parseStatusline (line : Text) : Int :=
  if (ascii "HTTP/1.").isPrefixOf line then
    match line.drop 7 with
    | [] => -1
    | minor :: rest =>
        if isdigit minor then
          match ((rest.dropWhile isspace).takeWhile isdigit).take 3 with
          | [] => -1
          | status => (strtol status .decimal).1
        else -1
  else -1

def handleHeader (request : Request) (key value : Text) : Request :=
  if Text.strcasecmp key (ascii "Content-Length") = .eq then
    { request with
      contentLength := MachineInt.toSize (strtol value .decimal).1
      contentLengthKnown := true }
  else if Text.strcasecmp key (ascii "Transfer-Encoding") = .eq then
    if Text.strcasecmp value (ascii "chunked") = .eq then { request with dataHandler := .chunked }
    else request
  else request

/-- What the lines of a header are parsed as. -/
inductive HdrParseMode where
  | head
  | lines
  | finished
deriving DecidableEq, Repr

/-- Handle a line; some statuses are errors. -/
def handleLine (mode : HdrParseMode) (request : Request) (line : Text) :
    Except Return (HdrParseMode × Request) :=
  match mode with
  | .head =>
      match parseStatusline line with
      | 200 => .ok (.lines, request)
      | 206 => .ok (.lines, request)
      | 400 => .error .badRequest
      | 403 => .error .forbidden
      | 404 => .error .notfound
      | -1 => .ok (.head, request)
      | _ => .error .statusUnknown
  | .lines =>
      if line = [] then .ok (.finished, request)
      else match afterFirst 58 line with
        | none => .ok (.lines, request)
        | some value =>
            .ok (.lines, handleHeader request (before 58 line) (value.dropWhile isspace))
  | .finished => .ok (.finished, request)

/-- Handle the lines that are in the buffer; every one takes a byte at least. -/
def splitLines : Nat → HdrParseMode → Request → Text →
    Except Return (HdrParseMode × Request × Text)
  | 0, mode, request, buf => .ok (mode, request, buf)
  | turns + 1, mode, request, buf =>
      if mode = .finished then .ok (mode, request, buf)
      else match getline buf with
        | none => .ok (mode, request, buf)
        | some (thisLine, next) =>
            match handleLine mode request thisLine with
            | .error code => .error code
            | .ok (mode, request) => splitLines turns mode request (buf.drop next)

/-- Read the header of a response; the bytes after it stay in the buffer. -/
def receiveHeaders : Nat → HdrParseMode → Request → Text → Connection →
    Option (Except Return (Request × Text × Connection))
  | 0, _, _, _, _ => none
  | fuel + 1, mode, request, buf, connection =>
      if mode = .finished then some (.ok (request, buf, connection))
      else match connection.read (bufferSize - 1 - buf.length) with
        | (.error code, _) => some (.error code)
        | (.ok [], _) => some (.error .connectionClosed)
        | (.ok received, connection) =>
            match splitLines (buf ++ received).length mode request (buf ++ received) with
            | .error code => some (.error code)
            | .ok (mode, request, buf) => receiveHeaders fuel mode request buf connection

/-! ## Reads -/

namespace Connection

/-- What a read may come to. -/
inductive Reads (size : Nat) (connection : Connection) : Except Return Text × Connection → Prop
  | ended (empty : connection.stream = []) (next : Connection) :
      Reads size connection (connection.ended, next)
  | piece {received : Text} {next : Connection} (nonempty : connection.stream ≠ [])
      (cut : connection.stream = received ++ next.stream) (small : received.length ≤ size)
      (some : received = [] → size = 0) (ending : next.ending = connection.ending) :
      Reads size connection (.ok received, next)

/-- Only the stream and its end matter for what a read may come to. -/
theorem Reads.congr {size : Nat} {connection other : Connection}
    {result : Except Return Text × Connection} (reads : Reads size connection result)
    (stream : other.stream = connection.stream) (ending : other.ending = connection.ending) :
    Reads size other result := by
  cases reads with
  | ended empty next =>
      have same :
        connection.ended = other.ended := by rw [Connection.ended, Connection.ended, ending]
      rw [same]
      exact .ended (stream.trans empty) next
  | piece nonempty cut small some kept =>
      exact .piece (stream ▸ nonempty) (stream.trans cut) small some (kept.trans ending.symm)

theorem read_reads (size : Nat) (connection : Connection) :
    Reads size connection (connection.read size) := by
  obtain ⟨arrivals, ending⟩ := connection
  rw [read]
  induction arrivals with
  | nil => exact .ended rfl _
  | cons piece arrivals ih =>
      rw [readPiece]
      split
      · rename_i empty
        subst empty
        exact ih.congr rfl rfl
      · rename_i present
        refine .piece ?_ ?_ (List.length_take_le _ _) ?_ rfl
        · simp [stream, present]
        · simp [stream, ← List.append_assoc]
        · simp [present]

end Connection

/-! ## Lines -/

private theorem exists_cString_append (front back : Text) :
    ∃ more, (front ++ back).cString = front.cString ++ more := by
  rw [Text.cString, List.takeWhile_append]
  split
  · rename_i whole
    refine ⟨back.takeWhile (· ≠ 0), ?_⟩
    rw [Text.cString, (List.takeWhile_prefix _).eq_of_length whole]
  · exact ⟨[], (List.append_nil _).symm⟩

theorem strchr_lt {text : Text} {byte : UInt8} {place : Nat}
    (found : Text.strchr text byte = some place) : place < text.length := by
  have inside := (List.findIdx?_eq_some_iff_findIdx_eq.mp found).1
  exact Nat.lt_of_lt_of_le inside (List.takeWhile_prefix _).length_le

private theorem strchr_append {front : Text} {byte : UInt8} {place : Nat}
    (found : Text.strchr front byte = some place) (back : Text) :
    Text.strchr (front ++ back) byte = some place := by
  obtain ⟨more, whole⟩ := exists_cString_append front back
  rw [Text.strchr] at found ⊢
  rw [whole, List.findIdx?_append, found]
  rfl

theorem getline_bounds {buf line : Text} {next : Nat} (complete : getline buf = some (line, next)) :
    0 < next ∧ next ≤ buf.length := by
  rw [getline, Option.map_eq_some_iff] at complete
  obtain ⟨eol, found, same⟩ := complete
  cases same
  exact ⟨Nat.succ_pos eol, strchr_lt found⟩

private theorem getline_append {front line : Text} {next : Nat}
    (complete : getline front = some (line, next)) (back : Text) :
    getline (front ++ back) = some (line, next) := by
  rw [getline, Option.map_eq_some_iff] at complete
  obtain ⟨eol, found, same⟩ := complete
  have inside : eol ≤ front.length := (strchr_lt found).le
  rw [getline, strchr_append found back, Option.map_some, List.take_append_of_le_length inside,
    same]

/-! ## What a header comes to -/

/-- The lines that a reader handles, each of them within the first bytes that fit into the buffer;
a line that does not fit, or that holds a NUL, ends it. -/
def headerOutcome (ending : Option Return) : Nat → HdrParseMode → Request → Text →
    Except Return (Request × Text)
  | 0, _, _, _ => .error .err
  | lines + 1, mode, request, stream =>
      if mode = .finished then .ok (request, stream)
      else match getline (stream.take (bufferSize - 1)) with
        | none =>
            .error (if stream.length < bufferSize then ending.getD .connectionClosed
              else .connectionClosed)
        | some (line, next) =>
            match handleLine mode request line with
            | .error code => .error code
            | .ok (mode, request) => headerOutcome ending lines mode request (stream.drop next)

/-- More lines than there are bytes make no difference. -/
theorem headerOutcome_enough (ending : Option Return) {first second : Nat} {mode : HdrParseMode}
    {request : Request} {stream : Text} (enough : stream.length < first)
    (also : stream.length < second) :
    headerOutcome ending first mode request stream =
      headerOutcome ending second mode request stream := by
  induction first generalizing second mode request stream with
  | zero => cases enough
  | succ first ih =>
      obtain _ | second := second
      · cases also
      rw [headerOutcome, headerOutcome]
      split
      · rfl
      split
      · rfl
      rename_i line next complete
      split
      · rfl
      have bounds := getline_bounds complete
      have short := List.length_take_le (bufferSize - 1) stream
      have fits := List.length_take_le' (bufferSize - 1) stream
      exact ih (by rw [List.length_drop]; omega) (by rw [List.length_drop]; omega)

/-- What the header of a whole stream comes to. -/
def header (ending : Option Return) (mode : HdrParseMode) (request : Request) (stream : Text) :
    Except Return (Request × Text) :=
  headerOutcome ending (stream.length + 1) mode request stream

/-- A code that reports what went wrong, other than a callback that refused. -/
def Return.Failure (code : Return) : Prop := code ≠ .ok ∧ code ≠ .cbAbort

instance (code : Return) : Decidable code.Failure := inferInstanceAs (Decidable (_ ∧ _))

private theorem handleLine_failure {mode : HdrParseMode} {request : Request} {line : Text}
    {code : Return} (fails : handleLine mode request line = .error code) : code.Failure := by
  unfold handleLine at fails
  split at fails
  · split at fails <;> cases fails <;> decide
  · split_ifs at fails
    split at fails <;> cases fails
  · cases fails

/-- A header that fails does so with an error. -/
theorem headerOutcome_failure {ending : Option Return}
    (breaks : ∀ code, ending = some code → code.Failure) {lines : Nat} {mode : HdrParseMode}
    {request : Request} {stream : Text} {code : Return}
    (fails : headerOutcome ending lines mode request stream = .error code) : code.Failure := by
  induction lines generalizing mode request stream with
  | zero =>
      cases fails
      decide
  | succ lines ih =>
      rw [headerOutcome] at fails
      split at fails
      · cases fails
      split at fails
      · cases fails
        split
        · cases ending with
          | none => decide
          | some code => exact breaks code rfl
        · decide
      split at fails
      · cases fails
        exact handleLine_failure ‹_›
      · exact ih fails

section Header

variable {ending : Option Return} {mode : HdrParseMode} {request : Request}
  {stream buf line : Text} {next : Nat}

@[simp]
theorem header_finished : header ending .finished request stream = .ok (request, stream) := by
  rw [header, headerOutcome, if_pos rfl]

theorem header_starved (unfinished : mode ≠ .finished)
    (missing : getline (stream.take (bufferSize - 1)) = none) :
    header ending mode request stream =
      .error (if stream.length < bufferSize then ending.getD .connectionClosed
        else .connectionClosed) := by
  rw [header, headerOutcome, if_neg unfinished, missing]

/-- A line within the buffer is handled before what follows it. -/
theorem header_line (unfinished : mode ≠ .finished) (fits : buf.length ≤ bufferSize - 1)
    (complete : getline buf = some (line, next)) (back : Text) :
    header ending mode request (buf ++ back) =
      match handleLine mode request line with
      | .error code => .error code
      | .ok (mode, request) => header ending mode request (buf.drop next ++ back) := by
  obtain ⟨some, inside⟩ := getline_bounds complete
  have window : (buf ++ back).take (bufferSize - 1) =
      buf ++ back.take (bufferSize - 1 - buf.length) := by
    rw [List.take_append, List.take_of_length_le fits]
  have rest : (buf ++ back).drop next = buf.drop next ++ back :=
    List.drop_append_of_le_length inside
  rw [header, headerOutcome, if_neg unfinished, window, getline_append complete]
  simp only [rest]
  cases handleLine mode request line with
  | error code => rfl
  | ok result =>
      exact headerOutcome_enough ending
        (by simp only [List.length_append, List.length_drop]; omega) (Nat.lt_succ_self _)

/-- Handling the lines in the buffer is handling the first lines of the stream. -/
theorem splitLines_header (fits : buf.length ≤ bufferSize - 1) {turns : Nat}
    (enough : buf.length ≤ turns) (back : Text) :
    (∀ code, splitLines turns mode request buf = .error code →
      header ending mode request (buf ++ back) = .error code) ∧
    ∀ after changed left, splitLines turns mode request buf = .ok (after, changed, left) →
      header ending mode request (buf ++ back) = header ending after changed (left ++ back) ∧
        left.length ≤ buf.length ∧ (after ≠ .finished → getline left = none) := by
  induction turns generalizing mode request buf with
  | zero =>
      obtain rfl := List.length_eq_zero_iff.mp (Nat.le_zero.mp enough)
      rw [splitLines]
      refine ⟨fun code same => ?_, fun after changed left same => ?_⟩
      · cases same
      · cases same
        exact ⟨rfl, Nat.le_refl _, fun _ => rfl⟩
  | succ turns ih =>
      rw [splitLines]
      split
      · rename_i finished
        refine ⟨fun code same => ?_, fun after changed left same => ?_⟩
        · cases same
        · cases same
          exact ⟨rfl, Nat.le_refl _, fun unfinished => absurd finished unfinished⟩
      rename_i unfinished
      split
      · rename_i missing
        refine ⟨fun code same => ?_, fun after changed left same => ?_⟩
        · cases same
        · cases same
          exact ⟨rfl, Nat.le_refl _, fun _ => missing⟩
      rename_i thisLine next complete
      obtain ⟨some, inside⟩ := getline_bounds complete
      have shorter : (buf.drop next).length < buf.length := by
        rw [List.length_drop]
        omega
      rw [header_line unfinished fits complete back]
      cases handleLine mode request thisLine with
      | error code =>
          exact ⟨fun other same => by cases same; rfl, fun after changed left same => by cases same⟩
      | ok result =>
          obtain ⟨refused, handled⟩ := @ih result.1 result.2 (buf.drop next) (by omega) (by omega)
          refine ⟨refused, fun after changed left same => ?_⟩
          obtain ⟨later, short, missing⟩ := handled after changed left same
          exact ⟨later, by omega, missing⟩

/-- Whatever the cuts of the stream, reading a header handles its lines and leaves the rest to the
body. -/
theorem receiveHeaders_header {fuel : Nat} {connection : Connection}
    (enough : connection.stream.length < fuel) (fits : buf.length ≤ bufferSize - 1)
    (missing : mode ≠ .finished → getline buf = none) :
    ∃ result, receiveHeaders (fuel + 1) mode request buf connection = some result ∧
      match result with
      | .error code =>
          header connection.ending mode request (buf ++ connection.stream) = .error code
      | .ok (changed, left, further) =>
          header connection.ending mode request (buf ++ connection.stream) =
              .ok (changed, left ++ further.stream) ∧
            further.ending = connection.ending ∧
            further.stream.length ≤ connection.stream.length := by
  induction fuel generalizing mode request buf connection with
  | zero => cases enough
  | succ fuel ih =>
      rw [receiveHeaders]
      split
      · rename_i finished
        subst finished
        exact ⟨_, rfl, header_finished, rfl, Nat.le_refl _⟩
      rename_i unfinished
      have none := missing unfinished
      have reads := connection.read_reads (bufferSize - 1 - buf.length)
      generalize connection.read (bufferSize - 1 - buf.length) = outcome at reads ⊢
      cases reads with
      | ended empty next =>
          have whole : (buf ++ connection.stream).take (bufferSize - 1) = buf := by
            rw [empty, List.append_nil, List.take_of_length_le fits]
          have starved := @header_starved connection.ending mode request _ unfinished
            (whole.symm ▸ none)
          have small : (buf ++ connection.stream).length < bufferSize := by
            rw [empty, List.append_nil, bufferSize] at *
            omega
          rw [if_pos small] at starved
          rw [starved]
          cases known : connection.ending with
          | none =>
              rw [Connection.ended, known]
              exact ⟨_, rfl, rfl⟩
          | some code =>
              rw [Connection.ended, known]
              exact ⟨_, rfl, rfl⟩
      | @piece received next nonempty cut small some ending =>
          cases received with
          | nil =>
              have full : buf.length = bufferSize - 1 := by
                have room := some rfl
                omega
              have whole : (buf ++ connection.stream).take (bufferSize - 1) = buf := by
                rw [← full, List.take_left]
              have large : ¬(buf ++ connection.stream).length < bufferSize := by
                have present := List.length_pos_of_ne_nil nonempty
                rw [List.length_append, full, bufferSize]
                omega
              have starved := @header_starved connection.ending mode request _ unfinished
                (whole.symm ▸ none)
              rw [if_neg large] at starved
              exact ⟨_, rfl, starved⟩
          | cons byte received =>
              have room : (buf ++ byte :: received).length ≤ bufferSize - 1 := by
                rw [List.length_append]
                omega
              have fewer : next.stream.length < fuel := by
                rw [cut, List.length_append, List.length_cons] at enough
                omega
              obtain ⟨refused, handled⟩ :=
                @splitLines_header connection.ending mode request _ room _
                (Nat.le_refl _) next.stream
              rw [cut, ← List.append_assoc]
              dsimp only
              cases split : splitLines (buf ++ byte :: received).length mode request
                  (buf ++ byte :: received) with
              | error code => exact ⟨_, rfl, refused code split⟩
              | ok result =>
                  obtain ⟨after, changed, left⟩ := result
                  obtain ⟨same, short, unread⟩ := handled after changed left split
                  obtain ⟨result, reached, comes⟩ :=
                    @ih after changed left next fewer (by omega) unread
                  rw [ending, ← same] at comes
                  refine ⟨result, reached, ?_⟩
                  cases result with
                  | error code => exact comes
                  | ok triple =>
                      obtain ⟨told, kept, less⟩ := comes
                      refine ⟨told, kept, ?_⟩
                      rw [List.length_append]
                      omega

end Header

end Waitress
