import Pianod.Waitress.Headers

/-!
# Responses

After the header the body of a response is read and handed to the callback, until it is complete or
the connection ends.  What the callback gets and what is returned are determined by the bytes that
the connection delivers; how they are cut into reads makes no difference.
-/

namespace Waitress

open Foundation

section Receiving

variable {κ : Type*} (callback : Consumer κ UInt8)

/-- Handle what is in the buffer, then what further reads return. -/
def receiveBody : Nat → Handle κ → Text → Connection → Option (Return × Handle κ)
  | 0, _, _, _ => none
  | fuel + 1, waith, buf, connection =>
      match handleData callback waith buf with
      | (waith, .done) => some (.ok, waith)
      | (waith, .err) => some (.decodingErr, waith)
      | (waith, .aborted) => some (.cbAbort, waith)
      | (waith, .continue) =>
          -- There is no need to read again once all of a known length is there.
          if waith.request.contentLengthKnown ∧
              waith.request.contentLength ≤ waith.request.contentReceived then
            some (.ok, waith)
          else match connection.read (bufferSize - 1) with
            | (.error code, _) => some (code, waith)
            | (.ok [], _) => some (.ok, waith)
            | (.ok received, connection) => receiveBody fuel waith received connection

def receiveResponse (fuel : Nat) (waith : Handle κ) (connection : Connection) :
    Option (Return × Handle κ) :=
  match receiveHeaders fuel .head waith.request [] connection with
  | none => none
  | some (.error code) => some (code, waith)
  | some (.ok (request, buf, connection)) =>
      receiveBody callback fuel { waith with request := request } buf connection

/-- A request before anything is received. -/
def Request.initial : Request where
  chunkedState := .chunkSize
  chunkSize := 0
  contentLength := 0
  contentReceived := 0
  contentLengthKnown := false
  dataHandler := .identity

/-- What a fetch meets on its way to the response. -/
structure Link where
  /-- The reply of a proxy that is asked for a tunnel, as it is for TLS. -/
  tunnel : Option Connection
  /-- The connection for the response when the request has been sent, or why it could not be. -/
  peer : Except Return Connection

/-- Connect to the server and send the request.  The reply of a proxy is read by the request that
the response is read by; what is left of it in the buffer is dropped. -/
def connect (fuel : Nat) (link : Link) : Option (Except Return (Request × Connection)) :=
  match link.tunnel with
  | none => some (link.peer.map fun connection => (Request.initial, connection))
  | some reply =>
      match receiveHeaders fuel .head Request.initial [] reply with
      | none => none
      | some (.error code) => some (.error code)
      | some (.ok (request, _, _)) => some (link.peer.map fun connection => (request, connection))

/-- Receive the response to a request that has been sent, or report that it could not be. -/
def fetchCall (fuel : Nat) (data : κ) (link : Link) : Option (Return × κ) :=
  match connect fuel link with
  | none => none
  | some (.error code) => some (code, data)
  | some (.ok (request, connection)) =>
      match receiveResponse callback fuel ⟨request, data⟩ connection with
      | none => none
      | some (code, waith) =>
          if code = .ok ∧ waith.request.contentReceived < waith.request.contentLength then
            some (.partialFile, waith.data)
          else some (code, waith.data)

end Receiving

/-- Collect what is received in a buffer, which there is from the first call on. -/
def fetchBufCb : Consumer (Option Text) UInt8 := fun buffer received =>
  (some (buffer.getD [] ++ received), true)

def fetchBuf (fuel : Nat) (link : Link) : Option (Return × Option Text) :=
  fetchCall fetchBufCb fuel none link

/-! ## Connecting -/

/-- The bytes of a connection and what ends it. -/
def Connection.whole (connection : Connection) : Text × Option Return :=
  (connection.stream, connection.ending)

/-- What the reply of a proxy leaves in the request, if there is one. -/
def opened : Option (Text × Option Return) → Except Return Request
  | none => .ok Request.initial
  | some (stream, ending) => (header ending .head Request.initial stream).map Prod.fst

namespace Link

/-- What the reply of the proxy on a link leaves in the request. -/
def opened (link : Link) : Except Return Request :=
  Waitress.opened (link.tunnel.map Connection.whole)

/-- As many turns as a fetch needs. -/
def turns (link : Link) : Nat :=
  (link.tunnel.elim 0 fun reply => reply.stream.length) +
    (link.peer.toOption.elim 0 fun connection => connection.stream.length) + 2

end Link

/-- Connecting comes to handling the reply of the proxy. -/
theorem connect_eq {fuel : Nat} {link : Link} (enough : link.turns ≤ fuel) :
    connect fuel link = some (link.opened.bind fun request =>
      link.peer.map fun connection => (request, connection)) := by
  obtain ⟨tunnel, peer⟩ := link
  rw [connect, Link.opened]
  cases tunnel with
  | none => rfl
  | some reply =>
      obtain ⟨fuel, rfl⟩ : ∃ fewer, fuel = fewer + 1 :=
        ⟨fuel - 1, by rw [Link.turns] at enough; omega⟩
      have room : reply.stream.length < fuel := by
        rw [Link.turns] at enough
        dsimp only [Option.elim_some] at enough
        omega
      obtain ⟨result, received, comes⟩ := @receiveHeaders_header .head Request.initial [] fuel reply
        room (Nat.zero_le _) (fun _ => rfl)
      rw [List.nil_append] at comes
      dsimp only [Option.map_some, Connection.whole, opened]
      rw [received]
      cases result with
      | error code =>
          rw [comes]
          rfl
      | ok result =>
          rw [comes.1]
          rfl

section Fresh

variable {request changed : Request}

theorem handleHeader_fresh (request : Request) (key value : Text) :
    (handleHeader request key value).toChunkReader = request.toChunkReader ∧
      (handleHeader request key value).contentReceived = request.contentReceived := by
  rw [handleHeader]
  split_ifs <;> exact ⟨rfl, rfl⟩

/-- A request that nothing of a body has been read by; a length that is not known is zero. -/
structure Request.Fresh (request : Request) : Prop where
  reader : request.toChunkReader = ⟨.chunkSize, 0⟩
  contentReceived : request.contentReceived = 0
  unknown : request.contentLengthKnown = false → request.contentLength = 0

theorem Request.Fresh.handleHeader (fresh : request.Fresh) (key value : Text) :
    (Waitress.handleHeader request key value).Fresh where
  reader := (handleHeader_fresh request key value).1.trans fresh.reader
  contentReceived := (handleHeader_fresh request key value).2.trans fresh.contentReceived
  unknown := by
    rw [Waitress.handleHeader]
    split_ifs
    · exact fun absent => by cases absent
    · exact fresh.unknown
    · exact fresh.unknown
    · exact fresh.unknown

theorem Request.Fresh.handleLine (fresh : request.Fresh) {mode after : HdrParseMode} {line : Text}
    (handles : Waitress.handleLine mode request line = .ok (after, changed)) : changed.Fresh := by
  unfold Waitress.handleLine at handles
  split at handles
  · split at handles <;> cases handles <;> exact fresh
  · split_ifs at handles
    · cases handles
      exact fresh
    split at handles
    · cases handles
      exact fresh
    · cases handles
      exact fresh.handleHeader _ _
  · cases handles
    exact fresh

theorem Request.Fresh.headerOutcome (fresh : request.Fresh) {ending : Option Return} {lines : Nat}
    {mode : HdrParseMode} {stream body : Text}
    (reads : Waitress.headerOutcome ending lines mode request stream = .ok (changed, body)) :
    changed.Fresh := by
  induction lines generalizing mode request stream with
  | zero => cases reads
  | succ lines induction =>
      rw [Waitress.headerOutcome] at reads
      split at reads
      · cases reads
        exact fresh
      split at reads
      · cases reads
      split at reads
      · cases reads
      · rename_i handles
        exact induction (fresh.handleLine handles) reads

/-- A header changes nothing about the body that has been read so far: none of it. -/
theorem Request.Fresh.header (fresh : request.Fresh) {ending : Option Return}
    {mode : HdrParseMode} {stream body : Text}
    (reads : Waitress.header ending mode request stream = .ok (changed, body)) : changed.Fresh :=
  fresh.headerOutcome reads

theorem Request.fresh_initial : Request.initial.Fresh := ⟨rfl, rfl, fun _ => rfl⟩

theorem Link.fresh_opened {link : Link} (stands : link.opened = .ok request) : request.Fresh := by
  obtain ⟨tunnel, peer⟩ := link
  rw [Link.opened] at stands
  cases tunnel with
  | none =>
      cases stands
      exact Request.fresh_initial
  | some reply =>
      dsimp only [Option.map_some, Connection.whole, Waitress.opened] at stands
      cases reads : Waitress.header reply.ending .head Request.initial reply.stream with
      | error code =>
          rw [reads] at stands
          cases stands
      | ok result =>
          rw [reads] at stands
          cases stands
          exact Request.fresh_initial.header reads

end Fresh

/-! ## What a response comes to -/

/-- What the handler in charge delivers of a body, and where it gets or why it stops. -/
def Request.decoded (request : Request) (body : Text) : Text × (ChunkReader ⊕ ChunkStop) :=
  match request.dataHandler with
  | .identity => (body, .inl request.toChunkReader)
  | .chunked => decode ChunkReader.step request.toChunkReader body

/-- What is returned when a body has been handled as far as it goes. -/
def Request.returned (request : Request) (ending : Option Return) (body : Text) : Return :=
  let decoded := request.decoded body
  match decoded.2 with
  | .inr .done => .ok
  | .inr .err => .decodingErr
  | .inl _ =>
      if request.contentLengthKnown ∧
          request.contentLength ≤ request.contentReceived + decoded.1.length then .ok
      else ending.getD .ok

/-- How a callback is given a body: it gets no empty piece of a chunk. -/
def Request.deliver {κ : Type*} (request : Request) (callback : Consumer κ UInt8) :
    Consumer κ UInt8 :=
  match request.dataHandler with
  | .identity => callback
  | .chunked => callback.sparing

/-- A body that is not read beyond its known length: in chunks it stays below it. -/
def Request.Settled (request : Request) (body : Text) : Prop :=
  request.contentLengthKnown = true →
    match request.dataHandler with
    | .identity => request.contentReceived + body.length ≤ request.contentLength
    | .chunked =>
        request.contentReceived + (request.decoded body).1.length < request.contentLength

section Bodies

variable {κ : Type*} {callback : Consumer κ UInt8} {waith : Handle κ}

theorem deliver_incremental (incremental : callback.Incremental) (request : Request) :
    (request.deliver callback).Incremental := by
  rw [Request.deliver]
  cases request.dataHandler with
  | identity => exact incremental
  | chunked => exact incremental.sparing

private theorem handleData_handled (incremental : callback.Incremental) (buf : Text) :
    Handled (waith.request.deliver callback) waith (waith.request.decoded buf)
      (handleData callback waith buf) := by
  rw [handleData, Request.decoded, Request.deliver]
  cases waith.request.dataHandler with
  | chunked => exact handleChunked_handled incremental (Nat.le_refl _)
  | identity =>
      rw [handleIdentity]
      refine ⟨rfl, fun refuses => ?_, fun goesOn => ?_, fun _ => ⟨_, rfl, fun further same => ?_⟩⟩
      · rw [refuses]
        rfl
      · rw [goesOn]
        rfl
      · exact Sum.inl.inj same

/-- Decoding goes on after a part of the body. -/
theorem Request.decoded_append {request : Request} {front body : Text} {reader : ChunkReader}
    (reads : request.decoded front = (body, .inl reader)) (back : Text) :
    request.decoded (front ++ back) =
      (body ++ ((request.advance body reader).decoded back).1,
        ((request.advance body reader).decoded back).2) := by
  rw [decoded] at reads
  rw [decoded, decoded, advance]
  cases handler : request.dataHandler with
  | identity =>
      rw [handler] at reads
      cases reads
      rfl
  | chunked =>
      rw [handler] at reads
      exact decode_append_of_inl reads back

/-- Nothing after the last chunk, or after an error, is decoded. -/
theorem Request.decoded_append_of_inr {request : Request} {front body : Text} {stop : ChunkStop}
    (reads : request.decoded front = (body, .inr stop)) (back : Text) :
    request.decoded (front ++ back) = (body, .inr stop) := by
  rw [decoded] at reads ⊢
  cases handler : request.dataHandler with
  | identity =>
      rw [handler] at reads
      cases reads
  | chunked =>
      rw [handler] at reads
      exact decode_append_of_inr reads back

/-- What follows a part of the body does not take it beyond the known length either. -/
theorem Request.Settled.advance {request : Request} {front back body : Text} {reader : ChunkReader}
    (settled : request.Settled (front ++ back))
    (reads : request.decoded front = (body, .inl reader)) :
    (request.advance body reader).Settled back := by
  intro known
  have limit := settled known
  rw [decoded_append reads back] at limit
  rw [decoded] at reads
  change match request.dataHandler with
    | .identity => request.contentReceived + body.length + back.length ≤ request.contentLength
    | .chunked => request.contentReceived + body.length +
        ((request.advance body reader).decoded back).1.length < request.contentLength
  cases handler : request.dataHandler with
  | identity =>
      rw [handler] at reads limit
      cases reads
      simp only [List.length_append] at limit
      simp only
      omega
  | chunked =>
      rw [handler] at limit
      simp only [List.length_append] at limit
      simp only
      omega

/-- A body that is complete before the end of what arrives is complete exactly then. -/
theorem Request.Settled.eq_nil {request : Request} {front back body : Text} {reader : ChunkReader}
    (settled : request.Settled (front ++ back))
    (reads : request.decoded front = (body, .inl reader))
    (known : request.contentLengthKnown = true)
    (complete : request.contentLength ≤ request.contentReceived + body.length) : back = [] := by
  have limit := settled known
  rw [decoded_append reads back] at limit
  rw [decoded] at reads
  cases handler : request.dataHandler with
  | identity =>
      rw [handler] at reads limit
      cases reads
      simp only [List.length_append] at limit
      exact List.length_eq_zero_iff.mp (by omega)
  | chunked =>
      rw [handler] at limit
      simp only [List.length_append] at limit
      omega

/-- What has become of a request when its body has been received. -/
structure Received (callback : Consumer κ UInt8) (waith : Handle κ) (ending : Option Return)
    (body : Text) (code : Return) (after : Handle κ) : Prop where
  data : after.data = (callback waith.data (waith.request.decoded body).1).1
  aborted : (callback waith.data (waith.request.decoded body).1).2 = false → code = .cbAbort
  returned : (callback waith.data (waith.request.decoded body).1).2 = true →
    code = waith.request.returned ending body
  length : (callback waith.data (waith.request.decoded body).1).2 = true →
    after.request.contentLength = waith.request.contentLength ∧
      after.request.contentReceived =
        waith.request.contentReceived + (waith.request.decoded body).1.length

private theorem refused_decoded_append (incremental : callback.Incremental) {request : Request}
    {data : κ} {front : Text} (refuses : (callback data (request.decoded front).1).2 = false)
    (back : Text) :
    callback data (request.decoded (front ++ back)).1 =
      callback data (request.decoded front).1 := by
  cases reads : request.decoded front with
  | mk body reached =>
      rw [reads] at refuses
      cases reached with
      | inl reader =>
          rw [Request.decoded_append reads back]
          exact incremental.append_of_false refuses _
      | inr stop => rw [Request.decoded_append_of_inr reads]

/-- A request is up to date when all of a body has been taken. -/
theorem received_of_decoded (ending : Option Return) {stream body : Text} {after : Handle κ}
    {reader : ChunkReader} (whole : (waith.request.decoded stream).1 = body)
    (goesOn : (callback waith.data body).2 = true)
    (data : after.data = (callback waith.data body).1)
    (advanced : after.request = waith.request.advance body reader) :
    Received callback waith ending stream (waith.request.returned ending stream) after := by
  subst whole
  refine ⟨data, fun refuses => ?_, fun _ => rfl, fun _ => ?_⟩
  · rw [goesOn] at refuses
    cases refuses
  · rw [advanced]
    exact ⟨rfl, rfl⟩

/-- A callback that refuses a part of the body aborts, whatever follows. -/
private theorem received_of_refused (incremental : callback.Incremental) (ending : Option Return)
    {front : Text} {after : Handle κ}
    (refuses : (callback waith.data (waith.request.decoded front).1).2 = false)
    (data : after.data = (callback waith.data (waith.request.decoded front).1).1) (back : Text) :
    Received callback waith ending (front ++ back) .cbAbort after := by
  have refused := refused_decoded_append incremental refuses back
  refine ⟨?_, fun _ => rfl, fun taken => ?_, fun taken => ?_⟩
  · rw [refused]
    exact data
  · rw [refused, refuses] at taken
    cases taken
  · rw [refused, refuses] at taken
    cases taken

/-- What follows a part of the body that has been taken is received by the request as it is then. -/
theorem Received.of_append (incremental : callback.Incremental) {ending : Option Return}
    {front back body : Text} {reader : ChunkReader} {code : Return} {after : Handle κ}
    (reads : waith.request.decoded front = (body, .inl reader))
    (goesOn : (callback waith.data body).2 = true)
    (received : Received callback
      ⟨waith.request.advance body reader, (callback waith.data body).1⟩ ending back code after) :
    Received callback waith ending (front ++ back) code after := by
  have whole := Request.decoded_append reads back
  have fed := incremental.append_of_true goesOn
    ((waith.request.advance body reader).decoded back).1
  have returned : waith.request.returned ending (front ++ back) =
      (waith.request.advance body reader).returned ending back := by
    simp only [Request.returned, whole, List.length_append, Request.advance, Nat.add_assoc]
  refine ⟨?_, ?_, ?_, ?_⟩
  · rw [whole, fed]
    exact received.data
  · rw [whole, fed]
    exact received.aborted
  · rw [whole, fed, returned]
    exact received.returned
  · rw [whole, fed]
    intro taken
    obtain ⟨length, total⟩ := received.length taken
    refine ⟨length, ?_⟩
    rw [total, List.length_append, ← Nat.add_assoc]
    rfl

/-- Whatever the cuts of the stream, receiving a body comes to decoding all that arrives. -/
theorem receiveBody_received (incremental : callback.Incremental) {fuel : Nat} {buf : Text}
    {connection : Connection} (enough : connection.stream.length < fuel)
    (settled : waith.request.Settled (buf ++ connection.stream)) :
    ∃ code after, receiveBody callback fuel waith buf connection = some (code, after) ∧
      Received (waith.request.deliver callback) waith connection.ending (buf ++ connection.stream)
        code after := by
  induction fuel generalizing waith buf connection with
  | zero => cases enough
  | succ fuel ih =>
      have handled := @handleData_handled _ callback waith incremental buf
      rw [receiveBody]
      cases handles : handleData callback waith buf with
      | mk after verdict =>
      rw [handles] at handled
      cases goesOn :
        (waith.request.deliver callback waith.data (waith.request.decoded buf).1).2 with
      | false =>
          obtain rfl := handled.aborted goesOn
          exact ⟨.cbAbort, after, rfl, received_of_refused
            (deliver_incremental incremental waith.request) _ goesOn handled.data _⟩
      | true =>
          obtain ⟨reader, advanced, same⟩ := handled.request goesOn
          have returned := handled.returned goesOn
          have data := handled.data
          cases reads : waith.request.decoded buf with
          | mk body reached =>
          rw [reads] at goesOn returned advanced same data
          dsimp only at goesOn returned advanced same data
          cases reached with
          | inr stop =>
              have whole := Request.decoded_append_of_inr reads connection.stream
              have received := received_of_decoded connection.ending
                (congrArg Prod.fst whole) goesOn data advanced
              subst returned
              rw [Request.returned, whole] at received
              cases stop with
              | done => exact ⟨.ok, after, rfl, received⟩
              | err => exact ⟨.decodingErr, after, rfl, received⟩
          | inl further =>
              obtain rfl := same further rfl
              subst returned
              have all (complete : connection.stream = []) :
                  Received (waith.request.deliver callback) waith
                  connection.ending (buf ++ connection.stream)
                  (if (waith.request.advance body reader).contentLengthKnown ∧
                      (waith.request.advance body reader).contentLength ≤
                        (waith.request.advance body reader).contentReceived then .ok
                    else connection.ending.getD .ok) after := by
                have received := received_of_decoded connection.ending
                  (congrArg Prod.fst reads) goesOn data advanced
                rw [Request.returned, reads] at received
                rw [complete, List.append_nil]
                exact received
              obtain ⟨request, held⟩ := after
              dsimp only at advanced data
              subst advanced data
              simp only [verdict]
              split
              · rename_i complete
                have none := settled.eq_nil reads complete.1 complete.2
                have received := all none
                rw [if_pos complete] at received
                exact ⟨_, _, rfl, received⟩
              rename_i incomplete
              have result := connection.read_reads (bufferSize - 1)
              generalize connection.read (bufferSize - 1) = outcome at result ⊢
              cases result with
              | ended empty next =>
                  have received := all empty
                  rw [if_neg incomplete] at received
                  rw [Connection.ended]
                  cases known : connection.ending with
                  | none =>
                      rw [known] at received
                      exact ⟨_, _, rfl, received⟩
                  | some code =>
                      rw [known] at received
                      exact ⟨_, _, rfl, received⟩
              | @piece received next nonempty cut small some ending =>
                  cases received with
                  | nil => exact absurd (some rfl) (by decide)
                  | cons byte received =>
                      rw [cut] at settled ⊢
                      rw [cut, List.length_append, List.length_cons] at enough
                      have fewer : next.stream.length < fuel := by omega
                      obtain ⟨code, after, reached, comes⟩ := @ih
                        ⟨waith.request.advance body reader,
                          (waith.request.deliver callback waith.data body).1⟩ _ next fewer
                        (settled.advance reads)
                      rw [ending] at comes
                      exact ⟨code, after, reached, comes.of_append
                        (deliver_incremental incremental waith.request) reads goesOn⟩

/-! ## Whole responses -/

/-- What is returned at last: a success is none while less than the length has been received. -/
def Request.concluded (request : Request) (code : Return) : Return :=
  if code = .ok ∧ request.contentReceived < request.contentLength then .partialFile else code

/-- What receiving a response comes to: what is returned, and what the callback has made of the
body. -/
def answered (callback : Consumer κ UInt8) (data : κ) (request : Request) (stream : Text)
    (ending : Option Return) : Return × κ :=
  match header ending .head request stream with
  | .error code => (request.concluded code, data)
  | .ok (request, body) =>
      let taken := request.deliver callback data (request.decoded body).1
      if taken.2 = false then (.cbAbort, taken.1)
      else
        ((request.advance (request.decoded body).1 request.toChunkReader).concluded
          (request.returned ending body), taken.1)

/-- What fetching comes to. -/
def fetched (callback : Consumer κ UInt8) (data : κ) (tunnel : Option (Text × Option Return))
    (peer : Except Return (Text × Option Return)) : Return × κ :=
  match opened tunnel with
  | .error code => (code, data)
  | .ok request =>
      match peer with
      | .error code => (code, data)
      | .ok (stream, ending) => answered callback data request stream ending

/-- A stream whose body, if it has one, is not read beyond its known length. -/
def SettledStream (request : Request) (stream : Text) (ending : Option Return) : Prop :=
  ∀ changed body, header ending .head request stream = .ok (changed, body) → changed.Settled body

/-- A link with a response that is not read beyond its known length. -/
def Link.Settled (link : Link) : Prop :=
  ∀ request connection, link.opened = .ok request → link.peer = .ok connection →
    SettledStream request connection.stream connection.ending

/-- A response that is read to its end comes to the same however its stream is cut into reads. -/
theorem receiveResponse_answered (incremental : callback.Incremental) {fuel : Nat}
    {waith : Handle κ} {connection : Connection} (enough : connection.stream.length + 1 < fuel)
    (settled : SettledStream waith.request connection.stream connection.ending) :
    ∃ code after, receiveResponse callback fuel waith connection = some (code, after) ∧
      (after.request.concluded code, after.data) =
        answered callback waith.data waith.request connection.stream connection.ending := by
  obtain ⟨fuel, rfl⟩ : ∃ fewer, fuel = fewer + 1 := ⟨fuel - 1, by omega⟩
  obtain ⟨result, received, comes⟩ := @receiveHeaders_header .head waith.request [] fuel connection
    (by omega) (Nat.zero_le _) (fun _ => rfl)
  rw [List.nil_append] at comes
  rw [receiveResponse, received, answered]
  cases result with
  | error code =>
      rw [comes]
      exact ⟨code, waith, rfl, rfl⟩
  | ok header =>
      obtain ⟨request, left, further⟩ := header
      obtain ⟨told, kept, less⟩ := comes
      rw [told]
      obtain ⟨code, after, body, taken⟩ := @receiveBody_received _ callback ⟨request, waith.data⟩
        incremental (fuel + 1) left further (by omega) (settled _ _ told)
      refine ⟨code, after, body, ?_⟩
      dsimp only
      rw [kept] at taken
      cases goesOn : (request.deliver callback waith.data
          (request.decoded (left ++ further.stream)).1).2 with
      | false =>
          obtain rfl := taken.aborted goesOn
          rw [taken.data, Request.concluded, if_neg (fun same => by cases same.1), if_pos rfl]
      | true =>
          obtain ⟨length, total⟩ := taken.length goesOn
          obtain rfl := taken.returned goesOn
          rw [taken.data, if_neg Bool.true_eq_false_eq_False, Request.concluded, Request.concluded,
            length, total]
          rfl

/-- A fetch comes to the same however the streams are cut into reads: the bytes and the way the
connections end determine what is returned and what the callback has been given. -/
theorem fetchCall_eq_fetched (incremental : callback.Incremental) (data : κ) {link : Link}
    {fuel : Nat} (enough : link.turns ≤ fuel) (settled : link.Settled) :
    fetchCall callback fuel data link =
      some (fetched callback data (link.tunnel.map Connection.whole)
        (link.peer.map Connection.whole)) := by
  have told := connect_eq enough
  have same : opened (link.tunnel.map Connection.whole) = link.opened := rfl
  rw [fetchCall, told, fetched, same]
  cases stands : link.opened with
  | error code => rfl
  | ok request =>
      cases answers : link.peer with
      | error code => rfl
      | ok connection =>
          have room : connection.stream.length + 1 < fuel := by
            rw [Link.turns, answers] at enough
            dsimp only [Except.toOption, Option.elim_some] at enough
            omega
          obtain ⟨code, after, received, comes⟩ := @receiveResponse_answered _ callback incremental
            fuel ⟨request, data⟩ connection room (settled request connection stands answers)
          dsimp only [Except.bind, Except.map, Connection.whole]
          rw [received, ← comes]
          dsimp only [Request.concluded]
          split <;> rfl

end Bodies

theorem fetchBufCb_incremental : Consumer.Incremental fetchBufCb where
  append := fun buffer front back => by
    rw [fetchBufCb, fetchBufCb, fetchBufCb, if_pos rfl, ← List.append_assoc]
    rfl

theorem fetchCall_eq_fetched_hi :
    let bytes := ascii "HTTP/1.1 200 OK\n\nhi"
    fetchCall fetchBufCb 30 none ⟨none, .ok ⟨[bytes.take 5, bytes.drop 5], none⟩⟩ =
      some (fetched fetchBufCb none none (.ok (bytes, none))) := by
  intro bytes
  have settled : Link.Settled ⟨none, .ok ⟨[bytes.take 5, bytes.drop 5], none⟩⟩ := by
    rintro request connection ⟨⟩ ⟨⟩ changed body reads
    have parsed : header none .head Request.initial bytes =
        .ok (Request.initial, ascii "hi") := by decide
    have same : header none .head Request.initial bytes = .ok (changed, body) := reads
    rw [parsed] at same
    cases same
    exact fun known => by cases known
  exact fetchCall_eq_fetched fetchBufCb_incremental none (by decide) settled

end Waitress
