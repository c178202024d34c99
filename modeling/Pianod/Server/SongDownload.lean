import Pianod.Waitress.Bodies
import Pianod.Waitress.Pieces

/-!
# Fetching a song piece by piece

The connection over which a song is fetched may break.  The player then asks for the range that
starts after the bytes received so far, until it has everything or the request fails for good.  With
a server that answers such requests no byte is lost and none is received twice.
-/

namespace Pianod

open Foundation Waitress

/-- The header field for the rest of a song; the array for it has 32 bytes. -/
def rangeHeader (bytesReceived : Nat) : Text :=
  (ascii "Range: bytes=" ++ numeral 10 bytesReceived ++ ascii "-\r\n").take 31

/-- Codes after which the missing part is requested. -/
def asksAgain (wRet : Return) : Bool :=
  wRet = .partialFile || wRet = .timeout || wRet = .readErr

/-- How a request for a range is answered. -/
abbrev RangeServer := Text → Link

section Fetching

variable {κ : Type} (callback : Consumer κ UInt8) (bytesReceived : κ → Nat)

/-- Fetch to the end: as many turns as it takes. -/
def fetchWhole (data : κ) (link : Link) : Option (Return × κ) :=
  fetchCall callback link.turns data link

/-- The loop of the player thread, over the answers that it gets; without a code it still asks. -/
def fetchSong (data : κ) : List RangeServer → Option (Option Return × κ)
  | [] => some (none, data)
  | server :: servers =>
      match fetchWhole callback data (server (rangeHeader (bytesReceived data))) with
      | none => none
      | some (wRet, data) =>
          if asksAgain wRet then fetchSong data servers else some (some wRet, data)

end Fetching

/-! ## Servers -/

/-- A link that reports as errors what are errors. -/
structure LinkBreaks (link : Link) : Prop where
  tunnel : ∀ reply, link.tunnel = some reply → ∀ code, reply.ending = some code → code.Failure
  refuses : ∀ code, link.peer = .error code → code.Failure
  ending : ∀ connection, link.peer = .ok connection →
    ∀ code, connection.ending = some code → code.Failure

/-- A server answers a request for a range with some of the bytes from its start on and the length
of the whole rest, if it sends a header at all. -/
structure ServesRanges (file : Text) (server : RangeServer) : Prop where
  breaks : ∀ offset ≤ file.length, LinkBreaks (server (rangeHeader offset))
  answers : ∀ offset ≤ file.length, ∀ left connection request body,
    (server (rangeHeader offset)).opened = .ok left →
    (server (rangeHeader offset)).peer = .ok connection →
    header connection.ending .head left connection.stream = .ok (request, body) →
      request.dataHandler = .identity ∧ request.contentLengthKnown = true ∧
        request.contentLength = file.length - offset ∧ body <+: file.drop offset

section Pieces

variable {file : Text} {server : RangeServer} {offset : Nat}

theorem LinkBreaks.opened {link : Link} (breaks : LinkBreaks link) {code : Return}
    (fails : link.opened = .error code) : code.Failure := by
  obtain ⟨tunnel, peer⟩ := link
  rw [Link.opened] at fails
  cases tunnel with
  | none => cases fails
  | some reply =>
      dsimp only [Option.map_some, Connection.whole, Waitress.opened] at fails
      cases reads : header reply.ending .head Request.initial reply.stream with
      | error failure =>
          rw [reads] at fails
          cases fails
          exact headerOutcome_failure (breaks.tunnel reply rfl) reads
      | ok result =>
          rw [reads] at fails
          cases fails

/-- What is not read beyond its known length, as the length is that of the whole rest. -/
theorem ServesRanges.settled (serves : ServesRanges file server) (within : offset ≤ file.length) :
    (server (rangeHeader offset)).Settled := by
  intro left connection stands peer request body reads
  obtain ⟨plain, -, length, part⟩ :=
    serves.answers offset within left connection request body stands peer reads
  have fresh := (Link.fresh_opened stands).header reads
  intro _
  rw [plain, fresh.contentReceived, length, Nat.zero_add, ← List.length_drop]
  exact part.length_le

/-- What is collected of the answer to a request for a range: a part of the file from its start on,
and all of it if the request succeeds. -/
theorem ServesRanges.fetchBuf (serves : ServesRanges file server) (within : offset ≤ file.length) :
    ∃ code buffer, Waitress.fetchBuf (server (rangeHeader offset)).turns
        (server (rangeHeader offset)) = some (code, buffer) ∧
      buffer.getD [] <+: file.drop offset ∧ code ≠ .cbAbort ∧
      (code = .ok → buffer.getD [] = file.drop offset) := by
  have breaks := serves.breaks offset within
  have told := fetchCall_eq_fetched fetchBufCb_incremental none (Nat.le_refl _)
    (serves.settled within)
  have answers := serves.answers offset within
  generalize server (rangeHeader offset) = link at breaks told answers ⊢
  rw [Waitress.fetchBuf, told, fetched]
  have same : opened (link.tunnel.map Connection.whole) = link.opened := rfl
  rw [same]
  cases stands : link.opened with
  | error code =>
      have failure := breaks.opened stands
      exact ⟨code, none, rfl, List.nil_prefix, failure.2, fun same => absurd same failure.1⟩
  | ok left =>
      cases peer : link.peer with
      | error code =>
          have failure := breaks.refuses code peer
          exact ⟨code, none, rfl, List.nil_prefix, failure.2, fun same => absurd same failure.1⟩
      | ok connection =>
          dsimp only [Except.map, Connection.whole]
          rw [answered]
          cases reads : header connection.ending .head left connection.stream with
          | error code =>
              have failure := headerOutcome_failure (breaks.ending connection peer) reads
              have whole : left.concluded code = code := if_neg fun both => failure.1 both.1
              dsimp only
              rw [whole]
              exact ⟨code, none, rfl, List.nil_prefix, failure.2, fun same => absurd same failure.1⟩
          | ok result =>
              obtain ⟨request, body⟩ := result
              obtain ⟨plain, known, length, part⟩ :=
                answers left connection request body stands peer reads
              have fresh := ((Link.fresh_opened stands).header reads).contentReceived
              have decoded : request.decoded body = (body, .inl request.toChunkReader) := by
                rw [Request.decoded, plain]
              have collected : request.deliver fetchBufCb none body = (some body, true) := by
                rw [Request.deliver, plain]
                rfl
              have room := part.length_le
              rw [List.length_drop] at room
              dsimp only
              rw [decoded, collected, if_neg Bool.true_eq_false_eq_False, Request.concluded,
                Request.advance, Request.returned, decoded, known, fresh, Nat.zero_add]
              by_cases complete : request.contentLength ≤ body.length
              · refine ⟨.ok, some body, ?_, part, by decide, fun _ => part.eq_of_length ?_⟩
                · simp [complete, Nat.not_lt.mpr complete]
                · rw [List.length_drop]
                  omega
              · have less := Nat.not_le.mp complete
                cases ended : connection.ending with
                | none =>
                    refine ⟨.partialFile, some body, ?_, part, by decide, fun same => ?_⟩
                    · simp [complete, less]
                    · cases same
                | some code =>
                    have failure := breaks.ending connection peer code ended
                    refine ⟨code, some body, ?_, part, failure.2, fun same => absurd same failure.1⟩
                    simp [complete, failure.1]

end Pieces

/-! ## Callbacks -/

/-- A callback that counts what it takes. -/
def Counts {κ : Type*} (callback : Consumer κ UInt8) (bytesReceived : κ → Nat) : Prop :=
  ∀ data piece, (callback data piece).2 = true →
    bytesReceived (callback data piece).1 = bytesReceived data + piece.length

section Resuming

variable {κ : Type} {callback : Consumer κ UInt8} {bytesReceived : κ → Nat} {file : Text}

private theorem feed_counts (counts : Counts callback bytesReceived) {data : κ} {pieces : List Text}
    (taken : (feed callback data pieces).2 = true) :
    bytesReceived (feed callback data pieces).1 = bytesReceived data + pieces.flatten.length := by
  induction pieces generalizing data with
  | nil => rfl
  | cons piece pieces induction =>
      rw [feed] at taken ⊢
      split at taken
      · rename_i first
        rw [if_pos first, induction taken, counts data piece first, List.flatten_cons,
          List.length_append, Nat.add_assoc]
      · cases taken

/-- However often the connection breaks, the callback is given the bytes of the file that are
missing, from the first one on, none twice and none left out, in pieces that fit into the buffer;
when the loop ends well it has been given all of them, and it is aborted exactly if the callback
refuses a piece. -/
theorem fetchSong_resumes (counts : Counts callback bytesReceived) {data : κ}
    (within : bytesReceived data ≤ file.length) {servers : List RangeServer}
    (serves : ∀ server ∈ servers, ServesRanges file server) :
    ∃ wRet pieces, fetchSong callback bytesReceived data servers =
        some (wRet, (feed callback data pieces).1) ∧
      (∀ piece ∈ pieces, piece.length < bufferSize) ∧
      pieces.flatten <+: file.drop (bytesReceived data) ∧
      (wRet = some .cbAbort ↔ (feed callback data pieces).2 = false) ∧
      (wRet = some .ok → pieces.flatten = file.drop (bytesReceived data)) ∧
      ∀ code, wRet = some code → asksAgain code = false := by
  induction servers generalizing data with
  | nil =>
      refine ⟨none, [], rfl, fun _ member => absurd member List.not_mem_nil, List.nil_prefix,
        ?_, ?_, ?_⟩
      · constructor <;> rintro ⟨⟩
      · rintro ⟨⟩
      · rintro code ⟨⟩
  | cons server servers induction =>
      rw [List.forall_mem_cons] at serves
      obtain ⟨code, pieces, short, collects, fetches⟩ :=
        @fetchCall_fed (server (rangeHeader (bytesReceived data))) _ (Nat.le_refl _)
      obtain ⟨_, _, collected, part, unaborted, full⟩ := serves.1.fetchBuf within
      rw [collects] at collected
      obtain ⟨rfl, rfl⟩ := Prod.mk.inj (Option.some.inj collected)
      have joined : (if pieces = [] then none else some pieces.flatten : Option Text).getD [] =
          pieces.flatten := by
        split
        · rename_i none
          rw [none]
          rfl
        · rfl
      rw [joined] at part full
      rw [fetchSong, fetchWhole, fetches]
      dsimp only
      cases taken : (feed callback data pieces).2 with
      | false =>
          rw [if_neg Bool.false_ne_true, if_neg (by decide)]
          refine ⟨some .cbAbort, pieces, rfl, short, part, ⟨fun _ => taken, fun _ => rfl⟩, ?_, ?_⟩
          · rintro ⟨⟩
          · rintro code ⟨⟩
            rfl
      | true =>
          rw [if_pos rfl]
          split
          · have count := feed_counts counts taken
            have reached : bytesReceived (feed callback data pieces).1 ≤ file.length := by
              have length := part.length_le
              rw [List.length_drop] at length
              omega
            obtain ⟨wRet, later, song, small, further, aborted, whole, final⟩ :=
              induction reached serves.2
            have split : file.drop (bytesReceived data) = pieces.flatten ++
                file.drop (bytesReceived (feed callback data pieces).1) := by
              rw [count, ← List.drop_drop]
              obtain ⟨rest, same⟩ := part
              rw [← same, List.drop_left]
            refine ⟨wRet, pieces ++ later, ?_, List.forall_mem_append.mpr ⟨short, small⟩, ?_, ?_,
              ?_, final⟩
            · rw [feed_append_of_true taken]
              exact song
            · rw [split, List.flatten_append]
              exact (List.prefix_append_right_inj _).mpr further
            · rw [feed_append_of_true taken]
              exact aborted
            · intro same
              rw [split, List.flatten_append, whole same]
          · rename_i final
            refine ⟨some code, pieces, rfl, short, part, ⟨fun same => ?_, fun refuses => ?_⟩,
              fun same => full (Option.some.inj same), fun other same => ?_⟩
            · exact absurd (Option.some.inj same) unaborted
            · rw [taken] at refuses
              cases refuses
            · obtain rfl := Option.some.inj same
              exact Bool.eq_false_iff.mpr final

end Resuming

/-- A server that breaks off after the third byte. -/
def breakingServer (file : Text) : RangeServer := fun field =>
  match (List.range (file.length + 1)).find? fun offset => rangeHeader offset = field with
  | none => ⟨none, .error .connectRefused⟩
  | some offset =>
      ⟨none, .ok ⟨[responseHead (ascii "HTTP/1.1 206 Partial Content")
        [(ascii "Content-Length", numeral 10 (file.length - offset))] ++
          (file.drop offset).take 3], none⟩⟩

theorem breakingServer_hello : ServesRanges (ascii "hello") (breakingServer (ascii "hello")) := by
  have offsets : ∀ offset ≤ 5, (List.range 6).find?
      (fun other => rangeHeader other = rangeHeader offset) = some offset := by decide
  have heads : ∀ offset ≤ 5, HeadFits (ascii "HTTP/1.1 206 Partial Content")
      [(ascii "Content-Length", numeral 10 (5 - offset))] := by
    intro offset within
    interval_cases offset <;>
      exact ⟨.inr (by decide), by decide, by decide, by decide, by decide⟩
  have lengths : ∀ offset ≤ 5, (Request.initial.handled
      [(ascii "Content-Length", numeral 10 (5 - offset))]).contentLength = 5 - offset := by decide
  have connects : ∀ offset ≤ 5, breakingServer (ascii "hello") (rangeHeader offset) =
      ⟨none, .ok ⟨[responseHead (ascii "HTTP/1.1 206 Partial Content")
        [(ascii "Content-Length", numeral 10 (5 - offset))] ++
          ((ascii "hello").drop offset).take 3], none⟩⟩ := by
    intro offset within
    have found : (List.range ((ascii "hello").length + 1)).find?
        (fun other => rangeHeader other = rangeHeader offset) = some offset := offsets offset within
    rw [breakingServer, found]
    rfl
  refine ⟨fun offset within => ?_,
    fun offset within left connection request body stands peer reads => ?_⟩
  · rw [connects offset within]
    refine ⟨fun reply same => ?_, fun code same => ?_, fun connection same code ended => ?_⟩
    · cases same
    · cases same
    · cases same
      cases ended
  · rw [connects offset within] at stands peer
    cases stands
    cases peer
    have parsed := @header_responseHead none Request.initial _ _ (heads offset within)
      (((ascii "hello").drop offset).take 3)
    rw [Connection.stream, List.flatten_singleton, parsed] at reads
    obtain ⟨rfl, rfl⟩ := Prod.mk.inj (Except.ok.inj reads)
    exact ⟨rfl, rfl, lengths offset within, List.take_prefix _ _⟩

/-- A callback that counts and refuses what it has no room for. -/
theorem fetchSong_resumes_hello :
    let callback : Consumer Nat UInt8 := fun count piece => (count + piece.length, count < 4)
    ∃ wRet pieces, fetchSong callback id 0
        [breakingServer (ascii "hello"), breakingServer (ascii "hello")] =
        some (wRet, (feed callback 0 pieces).1) ∧
      (∀ piece ∈ pieces, piece.length < bufferSize) ∧
      pieces.flatten <+: (ascii "hello").drop 0 ∧
      (wRet = some .cbAbort ↔ (feed callback 0 pieces).2 = false) ∧
      (wRet = some .ok → pieces.flatten = (ascii "hello").drop 0) ∧
      ∀ code, wRet = some code → asksAgain code = false := by
  intro callback
  have counts : Counts callback id := fun _ _ _ => rfl
  refine fetchSong_resumes counts (Nat.zero_le _) fun server member => ?_
  simp only [List.mem_cons, List.not_mem_nil, or_false, or_self] at member
  subst member
  exact breakingServer_hello

end Pianod
