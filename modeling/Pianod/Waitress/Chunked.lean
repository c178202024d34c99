import Pianod.Foundation.Piecewise
import Pianod.Foundation.Strtol

/-!
# Bodies of responses

The body of a response is handed to a callback, either as it is or after the chunks that it came in
have been put together.  The handler of chunks works on whatever a read has returned; what it
delivers does not depend on how the stream is cut into reads.
-/

namespace Waitress

open Foundation

/-- What a handler of data tells its caller. -/
inductive HandlerReturn where
  | continue
  | done
  | err
  | aborted
deriving DecidableEq, Repr

inductive ChunkedState where
  | chunkSize
  | data
deriving DecidableEq, Repr

/-- Why the handler of chunks stops. -/
inductive ChunkStop where
  | done
  | err
deriving DecidableEq, Repr

def ChunkStop.toReturn : ChunkStop → HandlerReturn
  | done => .done
  | err => .err

/-- How far the handler of chunks has come. -/
structure ChunkReader where
  /-- Which part of a chunk comes next. -/
  chunkedState : ChunkedState
  /-- How much of the chunk is to come. -/
  chunkSize : UInt64
deriving DecidableEq, Repr

/-- The handler of the data of a response. -/
inductive DataHandler where
  | identity
  | chunked
deriving DecidableEq, Repr

/-- What a request keeps of its response. -/
structure Request extends ChunkReader where
  /-- The length that was announced. -/
  contentLength : Nat
  /-- How much of the body was received. -/
  contentReceived : Nat
  /-- Whether a length was announced. -/
  contentLengthKnown : Bool
  /-- What the body is given to. -/
  dataHandler : DataHandler
deriving DecidableEq, Repr

/-- A request and the data of its callback. -/
structure Handle (κ : Type*) where
  request : Request
  data : κ

/-- Read a byte of a line with the size of a chunk. -/
def ChunkReader.readSize (reader : ChunkReader) (byte : UInt8) :
    Move ChunkReader UInt8 ChunkStop :=
  if 48 ≤ byte ∧ byte ≤ 57 then
    .advance { reader with chunkSize := reader.chunkSize <<< 4 ||| (byte &&& 0xf).toUInt64 } []
  else if 97 ≤ byte ∧ byte ≤ 102 then
    .advance { reader with
      chunkSize := reader.chunkSize <<< 4 ||| ((byte + 9) &&& 0xf).toUInt64 } []
  else if byte = 13 then .advance reader []
  else if byte = 10 then
    -- The last chunk has size zero.
    if reader.chunkSize = 0 then .stop .done
    else .advance { reader with chunkedState := .data } []
  else .stop .err

/-- Skip a byte of what follows the data of a chunk. -/
def ChunkReader.skip (reader : ChunkReader) (byte : UInt8) : ChunkReader :=
  if byte = 10 then { reader with chunkedState := .chunkSize } else reader

section Handlers

variable {κ : Type*} (callback : Consumer κ UInt8)

def handleIdentity (waith : Handle κ) (buf : Text) : Handle κ × HandlerReturn :=
  ({ request :=
        { waith.request with contentReceived := waith.request.contentReceived + buf.length }
     data := (callback waith.data buf).1 },
    if (callback waith.data buf).2 then .continue else .aborted)

/-- The loop over what a read returned; every turn takes a byte at least. -/
def handleChunked : Nat → Handle κ → Text → Handle κ × HandlerReturn
  | _, waith, [] => (waith, .continue)
  | 0, waith, _ => (waith, .continue)
  | turns + 1, waith, byte :: rest =>
      match waith.request.chunkedState with
      | .chunkSize =>
          match waith.request.toChunkReader.readSize byte with
          | .stop stop => (waith, stop.toReturn)
          | .advance reader _ =>
              handleChunked turns
                { waith with request := { waith.request with toChunkReader := reader } } rest
      | .data =>
          if waith.request.chunkSize > 0 then
            let payloadSize := min (rest.length + 1) waith.request.chunkSize.toNat
            match handleIdentity callback waith ((byte :: rest).take payloadSize) with
            | (fed, .aborted) => (fed, .aborted)
            | (fed, _) =>
                handleChunked turns
                  { fed with
                    request := { fed.request with
                      chunkSize := fed.request.chunkSize - UInt64.ofNat payloadSize } }
                  ((byte :: rest).drop payloadSize)
          else
            handleChunked turns
              { waith with
                request := { waith.request with
                  toChunkReader := waith.request.toChunkReader.skip byte } } rest

/-- The handler in charge. -/
def handleData (waith : Handle κ) (buf : Text) : Handle κ × HandlerReturn :=
  match waith.request.dataHandler with
  | .identity => handleIdentity callback waith buf
  | .chunked => handleChunked callback buf.length waith buf

end Handlers

/-! ## One byte after another -/

namespace ChunkReader

/-- Read a byte of a body in chunks. -/
def step (reader : ChunkReader) (byte : UInt8) : Move ChunkReader UInt8 ChunkStop :=
  match reader.chunkedState with
  | .chunkSize => reader.readSize byte
  | .data =>
      if reader.chunkSize > 0 then
        .advance { reader with chunkSize := reader.chunkSize - 1 } [byte]
      else .advance (reader.skip byte) []

/-- Data of a chunk is delivered as far as the chunk goes. -/
theorem decode_data {size : UInt64} {payload : Text} (fits : payload.length ≤ size.toNat) :
    decode step ⟨.data, size⟩ payload =
      (payload, .inl ⟨.data, size - UInt64.ofNat payload.length⟩) := by
  induction payload generalizing size with
  | nil => simp
  | cons byte payload ih =>
      rw [List.length_cons] at fits
      have positive : size > 0 := by
        rw [gt_iff_lt, UInt64.lt_iff_toNat_lt]
        exact Nat.lt_of_lt_of_le (Nat.succ_pos _) fits
      have moves : step ⟨.data, size⟩ byte = .advance ⟨.data, size - 1⟩ [byte] := by
        rw [step]
        exact if_pos positive
      have less : (size - 1).toNat = size.toNat - 1 := by
        rw [UInt64.toNat_sub_of_le]
        · rfl
        · rw [UInt64.le_iff_toNat_le]
          exact Nat.le_trans (Nat.succ_le_succ (Nat.zero_le _)) fits
      rw [decode_cons_of_advance moves, ih (by omega)]
      have sizes : size - 1 - UInt64.ofNat payload.length =
          size - UInt64.ofNat (payload.length + 1) := by
        rw [UInt64.ofNat_add]
        grind
      rw [sizes]
      rfl

end ChunkReader

/-! ## What the handlers come to -/

/-- What becomes of a body and of its reader when the callback takes everything. -/
def Request.advance (request : Request) (body : Text) (reader : ChunkReader) : Request :=
  { request with
    toChunkReader := reader
    contentReceived := request.contentReceived + body.length }

/-- What a handler that reads chunks reports of a piece that has been decoded. -/
def verdict : ChunkReader ⊕ ChunkStop → HandlerReturn
  | .inl _ => .continue
  | .inr stop => stop.toReturn

/-- A handler's result is the one expected of a decoded piece: the callback has been given the body,
and unless it refuses, the request is brought up to date. -/
structure Handled {κ : Type*} (callback : Consumer κ UInt8) (waith : Handle κ)
    (decoded : Text × (ChunkReader ⊕ ChunkStop)) (result : Handle κ × HandlerReturn) : Prop where
  data : result.1.data = (callback waith.data decoded.1).1
  aborted : (callback waith.data decoded.1).2 = false → result.2 = .aborted
  returned : (callback waith.data decoded.1).2 = true → result.2 = verdict decoded.2
  request : (callback waith.data decoded.1).2 = true → ∃ reader,
    result.1.request = waith.request.advance decoded.1 reader ∧
      ∀ further, decoded.2 = .inl further → reader = further

namespace Handled

variable {κ : Type*} {callback : Consumer κ UInt8} {waith : Handle κ}

theorem of_reader {reader : ChunkReader} {decoded : Text × (ChunkReader ⊕ ChunkStop)}
    {result : Handle κ × HandlerReturn}
    (handled : Handled callback
      { waith with request := { waith.request with toChunkReader := reader } } decoded result) :
    Handled callback waith decoded result := by
  refine ⟨handled.data, handled.aborted, handled.returned, fun goesOn => ?_⟩
  obtain ⟨further, advanced, same⟩ := handled.request goesOn
  exact ⟨further, advanced, same⟩

/-- A part of the data has been delivered, and the handler goes on. -/
theorem of_delivered (incremental : callback.Incremental) {payload : Text} {reader : ChunkReader}
    (goesOn : (callback waith.data payload).2 = true)
    {decoded : Text × (ChunkReader ⊕ ChunkStop)} {result : Handle κ × HandlerReturn}
    (handled : Handled callback
      { request := waith.request.advance payload reader
        data := (callback waith.data payload).1 } decoded result) :
    Handled callback waith (payload ++ decoded.1, decoded.2) result := by
  have whole : callback waith.data (payload ++ decoded.1) =
      callback (callback waith.data payload).1 decoded.1 :=
    incremental.append_of_true goesOn decoded.1
  refine ⟨?_, ?_, ?_, ?_⟩
  · rw [whole]
    exact handled.data
  · rw [whole]
    exact handled.aborted
  · rw [whole]
    exact handled.returned
  · intro taken
    rw [whole] at taken
    obtain ⟨further, advanced, same⟩ := handled.request taken
    refine ⟨further, ?_, same⟩
    rw [advanced, Request.advance, Request.advance, Request.advance, List.length_append,
      Nat.add_assoc]

end Handled

private theorem ChunkReader.readSize_advance {reader next : ChunkReader} {byte : UInt8}
    {delivered : List UInt8} (advances : reader.readSize byte = .advance next delivered) :
    delivered = [] := by
  unfold readSize at advances
  split_ifs at advances <;> cases advances <;> rfl

section Handlers

variable {κ : Type*} {callback : Consumer κ UInt8} {waith : Handle κ}

/-- A handler that delivers nothing more may go on or stop. -/
theorem handled_nil (spares : ∀ data, callback data [] = (data, true))
    {reached : ChunkReader ⊕ ChunkStop}
    (same : ∀ further, reached = .inl further → waith.request.toChunkReader = further) :
    Handled callback waith ([], reached) (waith, verdict reached) := by
  have nothing := spares waith.data
  refine ⟨?_, fun refuses => ?_, fun _ => rfl, fun _ => ⟨_, rfl, same⟩⟩
  · rw [nothing]
  · rw [nothing] at refuses
    cases refuses

/-- The data of a chunk, as far as it is there, is handed over at once. -/
theorem handled_payload (incremental : callback.Incremental) {size : UInt64} {buf : Text}
    {further : Handle κ → Handle κ × HandlerReturn} {payloadSize : Nat}
    (inChunk : waith.request.toChunkReader = ⟨.data, size⟩)
    (fits : payloadSize ≤ size.toNat) (there : payloadSize ≤ buf.length)
    (goesOn : ∀ next : Handle κ,
      next.request.toChunkReader = ⟨.data, size - UInt64.ofNat payloadSize⟩ →
      Handled callback next
        (decode ChunkReader.step next.request.toChunkReader (buf.drop payloadSize))
        (further next)) :
    Handled callback waith (decode ChunkReader.step waith.request.toChunkReader buf)
      (match handleIdentity callback waith (buf.take payloadSize) with
        | (fed, .aborted) => (fed, .aborted)
        | (fed, _) => further { fed with
            request := { fed.request with
              chunkSize := fed.request.chunkSize - UInt64.ofNat payloadSize } }) := by
  have length : (buf.take payloadSize).length = payloadSize := List.length_take_of_le there
  have taken := @ChunkReader.decode_data size (buf.take payloadSize) (length.symm ▸ fits)
  have whole := decode_append_of_inl taken (buf.drop payloadSize)
  rw [List.take_append_drop, length] at whole
  rw [inChunk, whole]
  cases answer : (callback waith.data (buf.take payloadSize)).2 with
  | false =>
      have refused := incremental.append_of_false answer
      rw [handleIdentity, answer]
      refine ⟨?_, fun _ => rfl, fun taken => ?_, fun taken => ?_⟩
      · rw [refused]
        rfl
      · rw [refused, answer] at taken
        cases taken
      · rw [refused, answer] at taken
        cases taken
  | true =>
      obtain ⟨⟨reader, contentLength, contentReceived, known, handler⟩, data⟩ := waith
      obtain rfl : reader = ⟨.data, size⟩ := inChunk
      rw [handleIdentity, answer]
      exact Handled.of_delivered incremental answer
        (goesOn ⟨Request.advance _ (buf.take payloadSize) _, _⟩ rfl)

/-- For a callback that makes nothing of empty pieces, handling chunks comes to decoding them byte
by byte. -/
theorem handleChunked_spared (incremental : callback.Incremental)
    (spares : ∀ data, callback data [] = (data, true)) {turns : Nat} {buf : Text}
    (enough : buf.length ≤ turns) :
    Handled callback waith (decode ChunkReader.step waith.request.toChunkReader buf)
      (handleChunked callback turns waith buf) := by
  induction turns generalizing waith buf with
  | zero =>
      obtain rfl := List.length_eq_zero_iff.mp (Nat.le_zero.mp enough)
      exact handled_nil spares fun further same => Sum.inl.inj same
  | succ turns ih =>
      cases buf with
      | nil => exact handled_nil spares fun further same => Sum.inl.inj same
      | cons byte rest =>
          have shorter : rest.length ≤ turns := Nat.le_of_succ_le_succ enough
          cases phase : waith.request.chunkedState with
          | chunkSize =>
              have reads : ChunkReader.step waith.request.toChunkReader byte =
                  waith.request.toChunkReader.readSize byte := by
                rw [ChunkReader.step, phase]
              simp only [handleChunked, phase]
              cases read : waith.request.toChunkReader.readSize byte with
              | stop verdict =>
                  rw [decode_cons_of_stop (reads.trans read)]
                  exact handled_nil spares fun further same => by cases same
              | advance reader delivered =>
                  obtain rfl := ChunkReader.readSize_advance read
                  rw [decode_cons_of_advance (reads.trans read), List.nil_append]
                  exact Handled.of_reader (ih shorter)
          | data =>
              have reader : waith.request.toChunkReader = ⟨.data, waith.request.chunkSize⟩ := by
                rw [← phase]
              simp only [handleChunked, phase]
              split
              · rename_i positive
                refine handled_payload incremental reader (Nat.min_le_right _ _)
                  (Nat.min_le_left _ _) fun next _ => ih ?_
                have consumed : 0 < min (rest.length + 1) waith.request.chunkSize.toNat :=
                  Nat.lt_min.mpr ⟨Nat.succ_pos _, UInt64.lt_iff_toNat_lt.mp positive⟩
                rw [List.length_drop, List.length_cons]
                omega
              · rename_i empty
                have skips : ChunkReader.step waith.request.toChunkReader byte =
                    .advance (waith.request.toChunkReader.skip byte) [] := by
                  rw [ChunkReader.step, phase]
                  exact if_neg empty
                rw [decode_cons_of_advance skips, List.nil_append]
                exact Handled.of_reader (ih shorter)

/-- No callback is given an empty piece of a chunk. -/
theorem handleChunked_sparing (callback : Consumer κ UInt8) (turns : Nat) (waith : Handle κ)
    (buf : Text) :
    handleChunked callback turns waith buf = handleChunked callback.sparing turns waith buf := by
  induction turns generalizing waith buf with
  | zero => cases buf <;> rfl
  | succ turns ih =>
      cases buf with
      | nil => rfl
      | cons byte rest =>
          rw [handleChunked, handleChunked]
          cases waith.request.chunkedState with
          | chunkSize =>
              dsimp only
              cases waith.request.toChunkReader.readSize byte with
              | stop verdict => rfl
              | advance reader delivered => exact ih _ rest
          | data =>
              dsimp only
              split
              · rename_i positive
                obtain ⟨size, some⟩ : ∃ size,
                    min (rest.length + 1) waith.request.chunkSize.toNat = size + 1 := by
                  have large : 0 < waith.request.chunkSize.toNat :=
                    UInt64.lt_iff_toNat_lt.mp positive
                  exact Nat.exists_eq_succ_of_ne_zero (by omega)
                have same : handleIdentity callback waith ((byte :: rest).take (size + 1)) =
                    handleIdentity callback.sparing waith ((byte :: rest).take (size + 1)) := rfl
                rw [some, same]
                split
                · rfl
                · exact ih _ _
              · exact ih _ rest

/-- Handling chunks comes to decoding them byte by byte. -/
theorem handleChunked_handled (incremental : callback.Incremental) {turns : Nat} {buf : Text}
    (enough : buf.length ≤ turns) :
    Handled callback.sparing waith (decode ChunkReader.step waith.request.toChunkReader buf)
      (handleChunked callback turns waith buf) := by
  rw [handleChunked_sparing]
  exact handleChunked_spared incremental.sparing (fun _ => rfl) enough

end Handlers

end Waitress
