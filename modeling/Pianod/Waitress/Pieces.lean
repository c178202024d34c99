import Pianod.Waitress.Response

/-!
# The pieces that a callback gets

The callback of a fetch is given the body in pieces that fit into the buffer.  What pieces they are
does not depend on the callback, which gets them one after another until it refuses one.
-/

namespace Waitress

open Foundation

section Feeding

variable {κ : Type*} {callback : Consumer κ UInt8}

/-- Give a callback one piece after another until it refuses one. -/
def feed (callback : Consumer κ UInt8) (data : κ) : List Text → κ × Bool
  | [] => (data, true)
  | piece :: pieces =>
      if (callback data piece).2 then feed callback (callback data piece).1 pieces
      else ((callback data piece).1, false)

theorem feed_append_of_true {data : κ} {front : List Text}
    (goesOn : (feed callback data front).2 = true) (back : List Text) :
    feed callback data (front ++ back) = feed callback (feed callback data front).1 back := by
  induction front generalizing data with
  | nil => rfl
  | cons piece front induction =>
      rw [feed] at goesOn
      rw [List.cons_append, feed, feed]
      split at goesOn
      · rename_i taken
        rw [if_pos taken, if_pos taken]
        exact induction goesOn
      · cases goesOn

/-- A callback that has refused a piece is given no further ones. -/
theorem feed_append_of_false {data : κ} {front : List Text}
    (refuses : (feed callback data front).2 = false) (back : List Text) :
    feed callback data (front ++ back) = feed callback data front := by
  induction front generalizing data with
  | nil => cases refuses
  | cons piece front induction =>
      rw [feed] at refuses
      rw [List.cons_append, feed, feed]
      split at refuses
      · rename_i taken
        rw [if_pos taken, if_pos taken]
        exact induction refuses
      · rename_i refused
        rw [if_neg refused, if_neg refused]

end Feeding

/-! ## Buffers -/

/-- Whatever the callback, a handler gives it the same pieces, and unless it refuses one the handler
ends in the same way. -/
structure Feeds (handle : ∀ {κ : Type}, Consumer κ UInt8 → κ → Handle κ × HandlerReturn)
    (pieces : List Text) (after : Request) (verdict : HandlerReturn) : Prop where
  taken : ∀ {κ : Type} (callback : Consumer κ UInt8) (data : κ),
    (feed callback data pieces).2 = true →
      handle callback data = (⟨after, (feed callback data pieces).1⟩, verdict)
  refused : ∀ {κ : Type} (callback : Consumer κ UInt8) (data : κ),
    (feed callback data pieces).2 = false →
      ∃ changed, handle callback data = (⟨changed, (feed callback data pieces).1⟩, .aborted)
  unaborted : verdict ≠ .aborted

/-- A handler that gives the callback nothing. -/
theorem Feeds.nothing {handle : ∀ {κ : Type}, Consumer κ UInt8 → κ → Handle κ × HandlerReturn}
    {request : Request} {verdict : HandlerReturn} (unaborted : verdict ≠ .aborted)
    (same : ∀ {κ : Type} (callback : Consumer κ UInt8) (data : κ),
      handle callback data = (⟨request, data⟩, verdict)) :
    Feeds handle [] request verdict where
  taken := fun callback data _ => same callback data
  refused := fun callback data refuses => by cases refuses
  unaborted := unaborted

private theorem handleIdentity_feeds (request : Request) (buf : Text) :
    Feeds (fun callback data => handleIdentity callback ⟨request, data⟩ buf) [buf]
      { request with contentReceived := request.contentReceived + buf.length } .continue where
  taken := fun callback data goesOn => by
    rw [feed] at goesOn ⊢
    split at goesOn
    · rename_i taken
      rw [handleIdentity, if_pos taken, if_pos taken]
      rfl
    · cases goesOn
  refused := fun callback data refuses => by
    rw [feed] at refuses ⊢
    split at refuses
    · cases refuses
    · rename_i refused
      rw [handleIdentity, if_neg refused, if_neg refused]
      exact ⟨_, rfl⟩
  unaborted := by decide

/-- The next piece of a chunk is handed over before what follows it. -/
theorem Feeds.payload {turns : Nat} {request after : Request} {piece rest : Text} {size : UInt64}
    {pieces : List Text} {verdict : HandlerReturn}
    (feeds : Feeds (fun callback data => handleChunked callback turns
      ⟨{ request with
          contentReceived := request.contentReceived + piece.length
          chunkSize := request.chunkSize - size }, data⟩ rest) pieces after verdict) :
    Feeds (fun callback data =>
      match handleIdentity callback ⟨request, data⟩ piece with
      | (fed, .aborted) => (fed, .aborted)
      | (fed, _) => handleChunked callback turns
          { fed with
            request := { fed.request with chunkSize := fed.request.chunkSize - size } } rest)
      (piece :: pieces) after verdict where
  taken := fun callback data goesOn => by
    rw [feed] at goesOn ⊢
    split at goesOn
    · rename_i taken
      have next := feeds.taken callback (callback data piece).1 goesOn
      rw [handleIdentity, if_pos taken, if_pos taken]
      exact next
    · cases goesOn
  refused := fun callback data refuses => by
    rw [feed] at refuses ⊢
    split at refuses
    · rename_i taken
      have next := feeds.refused callback (callback data piece).1 refuses
      rw [handleIdentity, if_pos taken, if_pos taken]
      exact next
    · rename_i refused
      rw [handleIdentity, if_neg refused, if_neg refused]
      exact ⟨_, rfl⟩
  unaborted := feeds.unaborted

/-- Every piece of the data of a chunk is handed on, as far as it is there. -/
theorem handleChunked_feeds (turns : Nat) (request : Request) (buf : Text) :
    ∃ pieces after verdict, (∀ piece ∈ pieces, piece.length ≤ buf.length) ∧
      Feeds (fun callback data => handleChunked callback turns ⟨request, data⟩ buf) pieces after
        verdict := by
  have none : ∀ piece ∈ ([] : List Text), piece.length ≤ buf.length :=
    fun _ member => absurd member List.not_mem_nil
  induction turns generalizing request buf with
  | zero =>
      refine ⟨[], request, .continue, none, Feeds.nothing (by decide) fun callback data => ?_⟩
      cases buf <;> rfl
  | succ turns induction =>
      cases buf with
      | nil => exact ⟨[], request, .continue, none, Feeds.nothing (by decide) fun _ _ => rfl⟩
      | cons byte rest =>
          have longer : ∀ {pieces : List Text}, (∀ piece ∈ pieces, piece.length ≤ rest.length) →
              ∀ piece ∈ pieces, piece.length ≤ (byte :: rest).length :=
            fun short piece member => (short piece member).trans (Nat.le_succ _)
          simp only [handleChunked]
          cases request.chunkedState with
          | chunkSize =>
              dsimp only
              cases request.toChunkReader.readSize byte with
              | stop stop =>
                  refine ⟨[], request, stop.toReturn, none, Feeds.nothing ?_ fun _ _ => rfl⟩
                  cases stop <;> decide
              | advance reader delivered =>
                  obtain ⟨pieces, after, verdict, short, feeds⟩ :=
                    induction { request with toChunkReader := reader } rest
                      (fun _ member => absurd member List.not_mem_nil)
                  exact ⟨pieces, after, verdict, longer short, feeds⟩
          | data =>
              dsimp only
              split
              · generalize min (rest.length + 1) request.chunkSize.toNat = payloadSize
                obtain ⟨pieces, after, verdict, short, feeds⟩ := induction
                  { request with
                    contentReceived := request.contentReceived +
                      ((byte :: rest).take payloadSize).length
                    chunkSize := request.chunkSize - UInt64.ofNat payloadSize }
                  ((byte :: rest).drop payloadSize) (fun _ member => absurd member List.not_mem_nil)
                refine ⟨(byte :: rest).take payloadSize :: pieces, after, verdict, ?_,
                  feeds.payload⟩
                rw [List.forall_mem_cons]
                refine ⟨List.length_take_le' _ _, fun piece member => (short piece member).trans ?_⟩
                rw [List.length_drop]
                exact Nat.sub_le _ _
              · obtain ⟨pieces, after, verdict, short, feeds⟩ := induction
                  { request with toChunkReader := request.toChunkReader.skip byte } rest
                  (fun _ member => absurd member List.not_mem_nil)
                exact ⟨pieces, after, verdict, longer short, feeds⟩

private theorem handleData_feeds (request : Request) (buf : Text) :
    ∃ pieces after verdict, (∀ piece ∈ pieces, piece.length ≤ buf.length) ∧
      Feeds (fun callback data => handleData callback ⟨request, data⟩ buf) pieces after
        verdict := by
  simp only [handleData]
  cases request.dataHandler with
  | identity =>
      exact ⟨[buf], _, .continue, List.forall_mem_singleton.mpr (Nat.le_refl _),
        handleIdentity_feeds request buf⟩
  | chunked => exact handleChunked_feeds buf.length request buf

/-! ## Responses -/

/-- A run that gives every callback the same pieces; if it takes them all, the run returns the same
code and leaves the same request, and otherwise it is aborted. -/
structure FeedsAll (run : ∀ {κ : Type}, Consumer κ UInt8 → κ → Option (Return × Handle κ))
    (pieces : List Text) (after : Request) (code : Return) : Prop where
  short : ∀ piece ∈ pieces, piece.length < bufferSize
  taken : ∀ {κ : Type} (callback : Consumer κ UInt8) (data : κ),
    (feed callback data pieces).2 = true →
      run callback data = some (code, ⟨after, (feed callback data pieces).1⟩)
  refused : ∀ {κ : Type} (callback : Consumer κ UInt8) (data : κ),
    (feed callback data pieces).2 = false →
      ∃ changed, run callback data = some (.cbAbort, ⟨changed, (feed callback data pieces).1⟩)

/-- A read returns less than the buffer holds. -/
theorem length_read_le {size : Nat} {connection next : Connection} {received : Text}
    (reads : connection.read size = (.ok received, next)) : received.length ≤ size := by
  have comes := Connection.read_reads size connection
  rw [reads] at comes
  generalize outcome : ((.ok received, next) : Except Return Text × Connection) = result at comes
  cases comes with
  | ended empty other =>
      have nothing := congrArg Prod.fst outcome
      dsimp only at nothing
      rw [Connection.ended] at nothing
      split at nothing
      · cases nothing
        exact Nat.zero_le _
      · cases nothing
  | piece nonempty cut small some ending =>
      cases outcome
      exact small

/-- A read that returns something leaves less to read. -/
theorem stream_read_lt {size : Nat} {connection next : Connection} {byte : UInt8} {received : Text}
    (reads : connection.read size = (.ok (byte :: received), next)) :
    next.stream.length < connection.stream.length := by
  have comes := Connection.read_reads size connection
  rw [reads] at comes
  generalize outcome :
    ((.ok (byte :: received), next) : Except Return Text × Connection) = result at comes
  cases comes with
  | ended empty other =>
      have nothing := congrArg Prod.fst outcome
      dsimp only at nothing
      rw [Connection.ended] at nothing
      split at nothing <;> cases nothing
  | piece nonempty cut small some ending =>
      cases outcome
      rw [cut, List.length_append, List.length_cons]
      omega

/-- A buffer that has been handled is followed by what further reads return. -/
theorem Feeds.further {request after last : Request} {buf : Text} {connection next : Connection}
    {fuel : Nat} {byte : UInt8} {received : Text} {pieces later : List Text} {code : Return}
    (small : ∀ piece ∈ pieces, piece.length < bufferSize)
    (feeds : Feeds (fun callback data => handleData callback ⟨request, data⟩ buf) pieces after
      .continue)
    (incomplete : ¬(after.contentLengthKnown ∧ after.contentLength ≤ after.contentReceived))
    (reads : connection.read (bufferSize - 1) = (.ok (byte :: received), next))
    (runs : FeedsAll (fun callback data =>
      receiveBody callback fuel ⟨after, data⟩ (byte :: received) next) later last code) :
    FeedsAll (fun callback data => receiveBody callback (fuel + 1) ⟨request, data⟩ buf connection)
      (pieces ++ later) last code where
  short := List.forall_mem_append.mpr ⟨small, runs.short⟩
  taken := fun callback data goesOn => by
    cases first : (feed callback data pieces).2 with
    | false =>
        rw [feed_append_of_false first, first] at goesOn
        cases goesOn
    | true =>
        rw [feed_append_of_true first] at goesOn ⊢
        rw [receiveBody, feeds.taken callback data first]
        dsimp only
        rw [if_neg incomplete, reads]
        exact runs.taken callback _ goesOn
  refused := fun callback data refuses => by
    cases first : (feed callback data pieces).2 with
    | false =>
        obtain ⟨changed, aborts⟩ := feeds.refused callback data first
        rw [feed_append_of_false first, receiveBody, aborts]
        exact ⟨changed, rfl⟩
    | true =>
        rw [feed_append_of_true first] at refuses ⊢
        rw [receiveBody, feeds.taken callback data first]
        dsimp only
        rw [if_neg incomplete, reads]
        exact runs.refused callback _ refuses

/-- A buffer with which a body ends. -/
theorem Feeds.last {request after : Request} {buf : Text} {connection : Connection} {fuel : Nat}
    {pieces : List Text} {verdict : HandlerReturn} {code : Return}
    (small : ∀ piece ∈ pieces, piece.length < bufferSize)
    (feeds : Feeds (fun callback data => handleData callback ⟨request, data⟩ buf) pieces after
      verdict)
    (ends : ∀ {κ : Type} (callback : Consumer κ UInt8) (data : κ) (changed : κ),
      handleData callback ⟨request, data⟩ buf = (⟨after, changed⟩, verdict) →
      receiveBody callback (fuel + 1) ⟨request, data⟩ buf connection =
        some (code, ⟨after, changed⟩)) :
    FeedsAll (fun callback data => receiveBody callback (fuel + 1) ⟨request, data⟩ buf connection)
      pieces after code where
  short := small
  taken := fun callback data goesOn => ends callback data _ (feeds.taken callback data goesOn)
  refused := fun callback data refuses => by
    obtain ⟨changed, aborts⟩ := feeds.refused callback data refuses
    rw [receiveBody, aborts]
    exact ⟨changed, rfl⟩

/-- A body is received to its end, and every callback is given the same pieces of it. -/
theorem receiveBody_feeds {fuel : Nat} {request : Request} {buf : Text} {connection : Connection}
    (short : buf.length < bufferSize) (enough : connection.stream.length < fuel) :
    ∃ pieces after code, FeedsAll
      (fun callback data => receiveBody callback fuel ⟨request, data⟩ buf connection) pieces after
        code := by
  induction fuel generalizing request buf connection with
  | zero => cases enough
  | succ fuel induction =>
      obtain ⟨pieces, after, verdict, small, feeds⟩ := handleData_feeds request buf
      have fit : ∀ piece ∈ pieces, piece.length < bufferSize :=
        fun piece member => (small piece member).trans_lt short
      cases verdict with
      | aborted => exact absurd rfl feeds.unaborted
      | done =>
          refine ⟨pieces, after, .ok, feeds.last fit fun callback data changed handles => ?_⟩
          rw [receiveBody, handles]
      | err =>
          refine ⟨pieces, after, .decodingErr,
            feeds.last fit fun callback data changed handles => ?_⟩
          rw [receiveBody, handles]
      | «continue» =>
          by_cases complete : after.contentLengthKnown ∧ after.contentLength ≤ after.contentReceived
          · refine ⟨pieces, after, .ok, feeds.last fit fun callback data changed handles => ?_⟩
            rw [receiveBody, handles]
            exact if_pos complete
          cases reads : connection.read (bufferSize - 1) with
          | mk answer next =>
              cases answer with
              | error failure =>
                  refine ⟨pieces, after, failure,
                    feeds.last fit fun callback data changed handles => ?_⟩
                  rw [receiveBody, handles]
                  dsimp only
                  rw [if_neg complete, reads]
              | ok received =>
                  cases received with
                  | nil =>
                      refine ⟨pieces, after, .ok,
                        feeds.last fit fun callback data changed handles => ?_⟩
                      rw [receiveBody, handles]
                      dsimp only
                      rw [if_neg complete, reads]
                  | cons byte received =>
                      have size : (byte :: received).length < bufferSize :=
                        (length_read_le reads).trans_lt (by decide)
                      have fewer : next.stream.length < fuel := by
                        have less := stream_read_lt reads
                        omega
                      obtain ⟨later, last, code, runs⟩ := @induction after _ next size fewer
                      exact ⟨pieces ++ later, last, code, feeds.further fit complete reads runs⟩

private theorem length_splitLines {turns : Nat} {mode after : HdrParseMode}
    {request changed : Request} {buf left : Text}
    (result : splitLines turns mode request buf = .ok (after, changed, left)) :
    left.length ≤ buf.length := by
  induction turns generalizing mode request buf with
  | zero =>
      cases result
      exact Nat.le_refl _
  | succ turns induction =>
      rw [splitLines] at result
      split at result
      · cases result
        exact Nat.le_refl _
      split at result
      · cases result
        exact Nat.le_refl _
      split at result
      · cases result
      · have shorter := induction result
        rw [List.length_drop] at shorter
        exact shorter.trans (Nat.sub_le _ _)

/-- What is left of the buffer after the header fits into it. -/
theorem length_receiveHeaders {fuel : Nat} {mode : HdrParseMode} {request changed : Request}
    {buf left : Text} {connection further : Connection} (fits : buf.length ≤ bufferSize - 1)
    (result : receiveHeaders fuel mode request buf connection =
      some (.ok (changed, left, further))) :
    left.length ≤ bufferSize - 1 := by
  induction fuel generalizing mode request buf connection with
  | zero => cases result
  | succ fuel induction =>
      rw [receiveHeaders] at result
      split at result
      · cases result
        exact fits
      split at result
      · cases result
      · cases result
      · rename_i received next some reads
        split at result
        · cases result
        · rename_i rest splits
          have read := length_read_le reads
          have shorter := length_splitLines splits
          rw [List.length_append] at shorter
          exact induction (by omega) result

private theorem receiveResponse_feeds {fuel : Nat} {request : Request} {connection : Connection}
    (enough : connection.stream.length + 1 < fuel) :
    ∃ pieces after code, FeedsAll
      (fun callback data => receiveResponse callback fuel ⟨request, data⟩ connection) pieces after
        code := by
  obtain ⟨fuel, rfl⟩ : ∃ fewer, fuel = fewer + 1 := ⟨fuel - 1, by omega⟩
  obtain ⟨result, received, comes⟩ := @receiveHeaders_header .head request [] fuel connection
    (by omega) (Nat.zero_le _) (fun _ => rfl)
  simp only [receiveResponse]
  rw [received]
  cases result with
  | error code =>
      refine ⟨[], request, code, fun _ member => absurd member List.not_mem_nil,
        fun _ _ _ => rfl, fun _ _ refuses => ?_⟩
      cases refuses
  | ok result =>
      obtain ⟨changed, left, further⟩ := result
      have fits := length_receiveHeaders (Nat.zero_le _) received
      exact receiveBody_feeds (fits.trans_lt (by decide)) (by have := comes.2.2; omega)

private theorem feed_fetchBufCb (buffer : Option Text) (pieces : List Text) :
    feed fetchBufCb buffer pieces =
      (if pieces = [] then buffer else some (buffer.getD [] ++ pieces.flatten), true) := by
  induction pieces generalizing buffer with
  | nil => rfl
  | cons piece pieces induction =>
      have taken : (fetchBufCb buffer piece).2 = true := rfl
      rw [feed, if_pos taken, induction, if_neg (List.cons_ne_nil piece pieces)]
      split
      · rename_i last
        rw [last, List.flatten_singleton]
        rfl
      · rw [List.flatten_cons, ← List.append_assoc]
        rfl

/-- Every fetch comes to an end.  It gives all callbacks the same pieces, which fit into the buffer
and are the body that would be collected: one after another until the callback refuses one.  If it
takes them all, the fetch ends as one that collects the body does; otherwise it is aborted. -/
theorem fetchCall_fed {link : Link} {fuel : Nat} (enough : link.turns ≤ fuel) :
    ∃ code pieces, (∀ piece ∈ pieces, piece.length < bufferSize) ∧
      fetchBuf fuel link = some (code, if pieces = [] then none else some pieces.flatten) ∧
      ∀ (κ : Type) (callback : Consumer κ UInt8) (data : κ),
        fetchCall callback fuel data link =
          some (if (feed callback data pieces).2 then code else .cbAbort,
            (feed callback data pieces).1) := by
  suffices all : ∃ code pieces, (∀ piece ∈ pieces, piece.length < bufferSize) ∧
      ∀ (κ : Type) (callback : Consumer κ UInt8) (data : κ),
        fetchCall callback fuel data link =
          some (if (feed callback data pieces).2 then code else .cbAbort,
            (feed callback data pieces).1) by
    obtain ⟨code, pieces, short, same⟩ := all
    refine ⟨code, pieces, short, ?_, same⟩
    rw [fetchBuf, same, feed_fetchBufCb, if_pos rfl]
    rfl
  have told := connect_eq enough
  simp only [fetchCall, told]
  cases stands : link.opened.bind fun request =>
      link.peer.map fun connection => (request, connection) with
  | error code =>
      refine ⟨code, [], fun _ member => absurd member List.not_mem_nil, fun _ _ _ => rfl⟩
  | ok result =>
      obtain ⟨request, connection⟩ := result
      have peer : link.peer = .ok connection := by
        cases opens : link.opened with
        | error code =>
            rw [opens] at stands
            cases stands
        | ok other =>
            cases answers : link.peer with
            | error code =>
                rw [opens, answers] at stands
                cases stands
            | ok further =>
                rw [opens, answers] at stands
                cases stands
                rfl
      have room : connection.stream.length + 1 < fuel := by
        rw [Link.turns, peer] at enough
        dsimp only [Except.toOption, Option.elim_some] at enough
        omega
      obtain ⟨pieces, after, code, feeds⟩ := @receiveResponse_feeds fuel request connection room
      refine ⟨after.concluded code, pieces, feeds.short, fun κ callback data => ?_⟩
      cases taken : (feed callback data pieces).2 with
      | true =>
          dsimp only
          rw [feeds.taken callback data taken, if_pos rfl, Request.concluded]
          dsimp only
          split <;> rfl
      | false =>
          obtain ⟨changed, aborts⟩ := feeds.refused callback data taken
          dsimp only
          rw [aborts, if_neg Bool.false_ne_true]
          exact if_neg fun both => by cases both.1

/-- The pieces of a body that arrives in two reads. -/
theorem fetchCall_fed_count :
    let link : Link := ⟨none, .ok ⟨[ascii "HTTP/1.1 200 OK\n\n", [1, 2], [3]], none⟩⟩
    ∃ code pieces, (∀ piece ∈ pieces, piece.length < bufferSize) ∧
      fetchBuf 40 link = some (code, if pieces = [] then none else some pieces.flatten) ∧
      ∀ (κ : Type) (callback : Consumer κ UInt8) (data : κ),
        fetchCall callback 40 data link =
          some (if (feed callback data pieces).2 then code else .cbAbort,
            (feed callback data pieces).1) := by
  intro link
  exact fetchCall_fed (by decide)

end Waitress
