import Pianod.Foundation.ChunkedCoding
import Pianod.Waitress.Response

/-!
# Complete and truncated bodies

A body that is sent in chunks arrives as the data of the chunks.  If the connection ends early, a
body of known length is reported as partial, while a body in chunks is taken for complete.
-/

namespace Waitress

open Foundation

/-! ## Sizes of chunks -/

private theorem shift_or_digit (size : UInt64) {digit : Nat} (small : digit < 16) :
    size <<< 4 ||| UInt64.ofNat digit = UInt64.ofNat (size.toNat * 16 + digit) := by
  rw [← UInt64.toNat_inj, UInt64.toNat_or, UInt64.toNat_shiftLeft, UInt64.toNat_ofNat',
    UInt64.toNat_ofNat']
  have shifted : size.toNat <<< ((4 : UInt64).toNat % 64) % 2 ^ 64 =
      (size.toNat % 2 ^ 60) <<< 4 := by
    have amount : (4 : UInt64).toNat % 64 = 4 := rfl
    rw [amount, Nat.shiftLeft_eq, Nat.shiftLeft_eq]
    omega
  rw [shifted, Nat.mod_eq_of_lt (show digit < 2 ^ 64 by omega),
    ← Nat.shiftLeft_add_eq_or_of_lt (show digit < 2 ^ 4 by omega), Nat.shiftLeft_eq]
  omega

namespace ChunkReader

private theorem readSize_digitByte {digit : Nat} (small : digit < 16) (reader : ChunkReader) :
    reader.readSize (digitByte digit) =
      .advance { reader with chunkSize := UInt64.ofNat (reader.chunkSize.toNat * 16 + digit) }
        [] := by
  have kinds : ∀ digit < 16,
      (48 ≤ digitByte digit ∧ digitByte digit ≤ 57) ∧
          (digitByte digit &&& 0xf).toUInt64 = UInt64.ofNat digit ∨
        ¬(48 ≤ digitByte digit ∧ digitByte digit ≤ 57) ∧
          (97 ≤ digitByte digit ∧ digitByte digit ≤ 102) ∧
          ((digitByte digit + 9) &&& 0xf).toUInt64 = UInt64.ofNat digit := by decide
  rw [readSize, ← shift_or_digit reader.chunkSize small]
  rcases kinds digit small with ⟨decimal, value⟩ | ⟨letter, range, value⟩
  · rw [if_pos decimal, value]
  · rw [if_neg letter, if_pos range, value]

/-- The digits of a size are read one after another. -/
theorem decode_digits {digits : List Nat} (small : ∀ digit ∈ digits, digit < 16) (size : Nat) :
    decode step ⟨.chunkSize, UInt64.ofNat size⟩ (digits.map digitByte) =
      ([], .inl ⟨.chunkSize,
        UInt64.ofNat (digits.foldl (fun value digit => value * 16 + digit) size)⟩) := by
  induction digits generalizing size with
  | nil => rfl
  | cons digit digits ih =>
      have moves : step ⟨.chunkSize, UInt64.ofNat size⟩ (digitByte digit) = _ :=
        readSize_digitByte (small digit List.mem_cons_self) ⟨.chunkSize, UInt64.ofNat size⟩
      have value : UInt64.ofNat ((UInt64.ofNat size).toNat * 16 + digit) =
          UInt64.ofNat (size * 16 + digit) := by
        rw [← UInt64.toNat_inj, UInt64.toNat_ofNat', UInt64.toNat_ofNat', UInt64.toNat_ofNat']
        omega
      rw [value] at moves
      rw [List.map_cons, decode_cons_of_advance moves,
        ih fun other member => small other (List.mem_cons_of_mem _ member)]
      rfl

/-- The reader at the start of a chunk. -/
def start : ChunkReader := ⟨.chunkSize, 0⟩

/-- A chunk delivers its data, and the next one follows. -/
theorem decode_encode {chunk : Chunk} (short : chunk.data.length < 2 ^ 64) :
    decode step start chunk.encode = (chunk.data, .inl start) := by
  have digits := decode_digits chunk.digit 0
  change decode step start (chunk.digits.map digitByte) =
    ([], .inl ⟨.chunkSize, UInt64.ofNat (ofDigits 16 chunk.digits)⟩) at digits
  rw [chunk.size] at digits
  have positive : UInt64.ofNat chunk.data.length ≠ 0 := by
    rw [ne_eq, ← UInt64.toNat_inj, UInt64.toNat_ofNat', Nat.mod_eq_of_lt short]
    exact Nat.ne_of_gt (List.length_pos_of_ne_nil chunk.nonempty)
  have line : decode step ⟨.chunkSize, UInt64.ofNat chunk.data.length⟩ HttpResponse.crlf =
      ([], .inl ⟨.data, UInt64.ofNat chunk.data.length⟩) := by
    have first : step ⟨.chunkSize, UInt64.ofNat chunk.data.length⟩ 13 =
        .advance ⟨.chunkSize, UInt64.ofNat chunk.data.length⟩ [] := rfl
    have second : step ⟨.chunkSize, UInt64.ofNat chunk.data.length⟩ 10 =
        .advance ⟨.data, UInt64.ofNat chunk.data.length⟩ [] := if_neg positive
    rw [HttpResponse.crlf, decode_cons_of_advance first, decode_cons_of_advance second]
    rfl
  have data : decode step ⟨.data, UInt64.ofNat chunk.data.length⟩ chunk.data =
      (chunk.data, .inl ⟨.data, 0⟩) := by
    rw [decode_data (by rw [UInt64.toNat_ofNat', Nat.mod_eq_of_lt short]), UInt64.sub_self]
  have rest : decode step ⟨.data, 0⟩ HttpResponse.crlf = ([], .inl start) := rfl
  rw [Chunk.encode, List.append_assoc, List.append_assoc, decode_append_of_inl digits,
    decode_append_of_inl line, decode_append_of_inl data, rest]
  simp

theorem decode_chunks {chunks : List Chunk}
    (short : ∀ chunk ∈ chunks, chunk.data.length < 2 ^ 64) :
    decode step start (chunks.flatMap Chunk.encode) = (chunkData chunks, .inl start) := by
  induction chunks with
  | nil => rfl
  | cons chunk chunks ih =>
      rw [List.flatMap_cons, decode_append_of_inl (decode_encode (short chunk List.mem_cons_self)),
        ih fun other member => short other (List.mem_cons_of_mem _ member)]
      rfl

private theorem decode_encodeChunks {chunks : List Chunk}
    (short : ∀ chunk ∈ chunks, chunk.data.length < 2 ^ 64) (rest : Text) :
    decode step start (encodeChunks chunks ++ rest) = (chunkData chunks, .inr .done) := by
  have last : decode step start (48 :: HttpResponse.crlf) = ([], .inr .done) := rfl
  have whole : decode step start (encodeChunks chunks) = (chunkData chunks, .inr .done) := by
    rw [encodeChunks, decode_append_of_inl (decode_chunks short), last, List.append_nil]
  exact decode_append_of_inr whole rest

/-- A body in chunks that is cut off anywhere delivers a part of the data, and no end is found. -/
theorem decode_prefix {chunks : List Chunk}
    (short : ∀ chunk ∈ chunks, chunk.data.length < 2 ^ 64) {front back : Text}
    (cut : front ++ back = encodeChunks chunks) (early : back ≠ []) :
    ∃ body reader rest, decode step start front = (body, .inl reader) ∧
      body ++ rest = chunkData chunks := by
  have last : decode step start [48, 13] = ([], .inl start) := rfl
  have unended : decode step start (chunks.flatMap Chunk.encode ++ [48, 13]) =
      (chunkData chunks, .inl start) := by
    rw [decode_append_of_inl (decode_chunks short), last, List.append_nil]
  have ends : encodeChunks chunks = (chunks.flatMap Chunk.encode ++ [48, 13]) ++ [10] := by
    rw [encodeChunks, List.append_assoc]
    rfl
  obtain ⟨most, final, rfl⟩ : ∃ most final, back = most ++ [final] :=
    ⟨back.dropLast, back.getLast early, (List.dropLast_append_getLast early).symm⟩
  rw [ends, ← List.append_assoc] at cut
  obtain ⟨same, -⟩ := List.append_inj' cut rfl
  cases reads : decode step start front with
  | mk body reached =>
      cases reached with
      | inl reader =>
          rw [← same, decode_append_of_inl reads] at unended
          exact ⟨body, reader, _, rfl, congrArg Prod.fst unended⟩
      | inr stop =>
          rw [← same, decode_append_of_inr reads] at unended
          cases unended

end ChunkReader

/-! ## Headers that are sent -/

/-- A header: its status line, and fields with their names and values. -/
def responseHead (status : Text) (fields : List (Text × Text)) : Text :=
  status ++ HttpResponse.crlf ++
    (fields.flatMap (fun field => HttpResponse.field field.1 field.2 ++ HttpResponse.crlf) ++
      HttpResponse.crlf)

/-- A line that the reader gets as it is. -/
def LineFits (line : Text) : Prop :=
  0 ∉ line ∧ 10 ∉ line ∧ line.length + 2 ≤ bufferSize - 1

instance (line : Text) : Decidable (LineFits line) := inferInstanceAs (Decidable (_ ∧ _ ∧ _))

/-- A header that is accepted, and whose lines fit into the buffer. -/
structure HeadFits (status : Text) (fields : List (Text × Text)) : Prop where
  accepted : parseStatusline status = 200 ∨ parseStatusline status = 206
  status : LineFits status
  lines : ∀ field ∈ fields, LineFits (HttpResponse.field field.1 field.2)
  names : ∀ field ∈ fields, 58 ∉ field.1
  values : ∀ field ∈ fields, field.2.dropWhile isspace = field.2

/-- A request that has handled the fields of a header. -/
def Request.handled (request : Request) (fields : List (Text × Text)) : Request :=
  fields.foldl (fun request field => handleHeader request field.1 field.2) request

private theorem getline_crlf {line : Text} (free : LineFits line) :
    getline (line ++ HttpResponse.crlf) = some (line, line.length + 2) := by
  obtain ⟨noNul, noBreak, -⟩ := free
  have nulFree : Text.NulFree (line ++ HttpResponse.crlf) := by
    intro byte member same
    subst same
    rcases List.mem_append.mp member with inside | ending
    · exact noNul inside
    · exact absurd ending (by decide)
  have found : Text.strchr (line ++ HttpResponse.crlf) 10 = some (line.length + 1) := by
    rw [Text.strchr_eq nulFree, List.findIdx?_append]
    have missing : line.findIdx? (· == 10) = none := by
      rw [List.findIdx?_eq_none_iff]
      intro byte member
      exact beq_eq_false_iff_ne.mpr fun same => noBreak (same ▸ member)
    rw [missing, Option.none_or]
    have place : HttpResponse.crlf.findIdx? (· == 10) = some 1 := rfl
    rw [place, Option.map_some, Nat.add_comm]
  have taken : (line ++ HttpResponse.crlf).take (line.length + 1) = line ++ [13] := by
    rw [List.take_append, List.take_of_length_le (Nat.le_succ _), Nat.add_sub_cancel_left]
    rfl
  rw [getline, found, Option.map_some, taken]
  simp

section Head

variable {ending : Option Return} {mode after : HdrParseMode} {request changed : Request}
  {line : Text}

/-- A line that fits is handled before what follows it. -/
theorem header_crlf (unfinished : mode ≠ .finished) (free : LineFits line)
    (handles : handleLine mode request line = .ok (after, changed)) (rest : Text) :
    header ending mode request (line ++ HttpResponse.crlf ++ rest) =
      header ending after changed rest := by
  have fits : (line ++ HttpResponse.crlf).length ≤ bufferSize - 1 := by
    rw [List.length_append]
    exact free.2.2
  rw [header_line unfinished fits (getline_crlf free), handles]
  dsimp only
  rw [List.drop_of_length_le (by rw [List.length_append]; exact Nat.le_refl _), List.nil_append]

private theorem handleLine_field {name value : Text} (named : 58 ∉ name)
    (trimmed : value.dropWhile isspace = value) :
    handleLine .lines request (HttpResponse.field name value) =
      .ok (.lines, handleHeader request name value) := by
  have present : HttpResponse.field name value ≠ [] := by simp [HttpResponse.field]
  have skipped : (32 :: value).dropWhile isspace = value := by
    rw [List.dropWhile_cons_of_pos (by rfl), trimmed]
  rw [handleLine, if_neg present, HttpResponse.field, HttpResponse.afterFirst_append named,
    HttpResponse.before_append named]
  simp only [skipped]

private theorem header_fields {fields : List (Text × Text)}
    (lines : ∀ field ∈ fields, LineFits (HttpResponse.field field.1 field.2))
    (names : ∀ field ∈ fields, 58 ∉ field.1)
    (values : ∀ field ∈ fields, field.2.dropWhile isspace = field.2)
    (body : Text) :
    header ending .lines request
      (fields.flatMap (fun field => HttpResponse.field field.1 field.2 ++ HttpResponse.crlf) ++
        HttpResponse.crlf ++ body) =
      .ok (fields.foldl (fun request field => handleHeader request field.1 field.2) request,
        body) := by
  induction fields generalizing request with
  | nil =>
      have blank : LineFits [] := ⟨List.not_mem_nil, List.not_mem_nil, by decide⟩
      have finishes : handleLine .lines request [] = .ok (.finished, request) := rfl
      have read := @header_crlf ending _ _ _ _ _ (by decide) blank finishes body
      rw [List.nil_append] at read
      rw [List.flatMap_nil, List.nil_append, read, header_finished]
      rfl
  | cons field fields ih =>
      rw [List.forall_mem_cons] at lines names values
      rw [List.flatMap_cons, List.append_assoc, List.append_assoc,
        header_crlf (by decide) lines.1 (handleLine_field names.1 values.1), ← List.append_assoc,
        ih lines.2 names.2 values.2]
      rfl

/-- A header that fits is handled field by field, and the rest is the body. -/
theorem header_responseHead {status : Text} {fields : List (Text × Text)}
    (fits : HeadFits status fields) (body : Text) :
    header ending .head request (responseHead status fields ++ body) =
      .ok (request.handled fields, body) := by
  have handles : handleLine .head request status = .ok (.lines, request) := by
    rcases fits.accepted with full | part
    · rw [handleLine, full]
      rfl
    · rw [handleLine, part]
      rfl
  rw [responseHead, List.append_assoc, header_crlf (by decide) fits.status handles,
    header_fields fits.lines fits.names fits.values]
  rfl

end Head

/-- A header changes nothing about the body that has been read so far. -/
theorem Request.Fresh.handled {request : Request} (fresh : request.Fresh)
    (fields : List (Text × Text)) : (request.handled fields).Fresh := by
  rw [Request.handled]
  induction fields generalizing request with
  | nil => exact fresh
  | cons field fields ih => exact ih (fresh.handleHeader field.1 field.2)

/-! ## What is fetched -/

section Fetched

variable {status : Text} {fields : List (Text × Text)} {link : Link} {connection : Connection}
  {request : Request} {fuel : Nat}

/-- A response on a link: what connecting has left in the request, and the connection with a header
that fits and what follows it. -/
structure Link.Answers (link : Link) (request : Request) (connection : Connection) (status : Text)
    (fields : List (Text × Text)) (body : Text) : Prop where
  opened : link.opened = .ok request
  peer : link.peer = .ok connection
  fits : HeadFits status fields
  arrives : connection.stream = responseHead status fields ++ body

/-- Fetching a response whose header fits comes to decoding its body. -/
theorem fetchBuf_responseHead {body : Text}
    (answers : link.Answers request connection status fields body) (enough : link.turns ≤ fuel)
    (settled : (request.handled fields).Settled body) :
    fetchBuf fuel link =
      some (if (request.handled fields).returned connection.ending body = .ok ∧
          ((request.handled fields).decoded body).1.length <
            (request.handled fields).contentLength then .partialFile
        else (request.handled fields).returned connection.ending body,
        ((request.handled fields).deliver fetchBufCb none
          ((request.handled fields).decoded body).1).1) := by
  obtain ⟨opens, peer, fits, arrives⟩ := answers
  have head := @header_responseHead connection.ending request status fields fits body
  rw [← arrives] at head
  have told : link.Settled := by
    intro other further same also changed rest reads
    obtain rfl := Except.ok.inj (same.symm.trans opens)
    obtain rfl := Except.ok.inj (also.symm.trans peer)
    rw [head] at reads
    cases reads
    exact settled
  have fresh := ((Link.fresh_opened opens).handled fields).contentReceived
  have taken : ∀ body, ((request.handled fields).deliver fetchBufCb none body).2 = true := by
    intro body
    rw [Request.deliver]
    cases (request.handled fields).dataHandler with
    | identity => rfl
    | chunked => cases body <;> rfl
  have same : opened (link.tunnel.map Connection.whole) = .ok request := opens
  rw [fetchBuf, fetchCall_eq_fetched fetchBufCb_incremental none enough told, fetched, same, peer]
  dsimp only [Except.map, Connection.whole]
  rw [answered, head]
  dsimp only
  rw [taken, if_neg Bool.true_eq_false_eq_False, Request.concluded, Request.advance, fresh,
    Nat.zero_add]

/-- What is collected of a body that comes in chunks: there is no buffer before the first byte. -/
def buffered (body : Text) : Option Text := if body = [] then none else some body

private theorem sparing_fetchBufCb (body : Text) :
    (Consumer.sparing fetchBufCb none body).1 = buffered body := by
  cases body with
  | nil => rfl
  | cons byte body => exact (if_neg (List.cons_ne_nil byte body)).symm

/-- What is fetched of a response in chunks without a known length. -/
theorem fetchBuf_decode {body : Text}
    (answers : link.Answers request connection status fields body)
    (chunked : (request.handled fields).dataHandler = .chunked)
    (unknown : (request.handled fields).contentLengthKnown = false) (enough : link.turns ≤ fuel) :
    fetchBuf fuel link =
      some (match (decode ChunkReader.step ChunkReader.start body).2 with
        | .inr .done => .ok
        | .inr .err => .decodingErr
        | .inl _ => connection.ending.getD .ok,
        buffered (decode ChunkReader.step ChunkReader.start body).1) := by
  have fresh := (Link.fresh_opened answers.opened).handled fields
  have decoded : (request.handled fields).decoded body =
      decode ChunkReader.step ChunkReader.start body := by
    rw [Request.decoded, chunked, fresh.reader]
    rfl
  have settled : (request.handled fields).Settled body := by
    intro known
    rw [unknown] at known
    cases known
  rw [fetchBuf_responseHead answers enough settled, Request.returned, decoded,
    fresh.unknown unknown, unknown, Request.deliver, chunked]
  dsimp only
  rw [sparing_fetchBufCb, if_neg (fun less => Nat.not_lt_zero _ less.2)]
  cases (decode ChunkReader.step ChunkReader.start body).2 with
  | inl reader => simp
  | inr stop => cases stop <;> rfl

/-- A body in chunks is received in full as soon as its last chunk has arrived, however it is cut
into chunks and however the stream is cut into reads; what follows it is not taken for a part. -/
theorem fetchBuf_chunked {chunks : List Chunk} {trailer : Text}
    (answers : link.Answers request connection status fields (encodeChunks chunks ++ trailer))
    (chunked : (request.handled fields).dataHandler = .chunked)
    (unknown : (request.handled fields).contentLengthKnown = false)
    (short : ∀ chunk ∈ chunks, chunk.data.length < 2 ^ 64) (enough : link.turns ≤ fuel) :
    fetchBuf fuel link =
      some (.ok, if chunks = [] then none else some (chunkData chunks)) := by
  have empty : chunkData chunks = [] ↔ chunks = [] := by
    rw [chunkData, List.flatMap_eq_nil_iff, List.eq_nil_iff_forall_not_mem]
    exact forall_congr' fun chunk => forall_congr' fun member =>
      iff_false_intro fun nothing => chunk.nonempty nothing
  rw [fetchBuf_decode answers chunked unknown enough, ChunkReader.decode_encodeChunks short,
    buffered]
  simp only [empty]

theorem headFits_chunked :
    HeadFits (ascii "HTTP/1.1 200 OK") [(ascii "Transfer-Encoding", ascii "chunked")] where
  accepted := .inl (by decide)
  status := by decide
  lines := by decide
  names := by decide
  values := by decide

def helloChunks : List Chunk :=
  [Chunk.usual (ascii "he") (by decide), Chunk.usual (ascii "llo") (by decide)]

/-- The response arrives behind a tunnel. -/
theorem fetchBuf_chunked_hello :
    let bytes := responseHead (ascii "HTTP/1.1 200 OK")
      [(ascii "Transfer-Encoding", ascii "chunked")] ++ (encodeChunks helloChunks ++ [13, 10])
    let tunnel := some ⟨[ascii "HTTP/1.1 200 OK\r\n\r\n"], none⟩
    fetchBuf (bytes.length + 21) ⟨tunnel, .ok ⟨[bytes.take 60, bytes.drop 60], none⟩⟩ =
      some (.ok, some (ascii "hello")) := by
  intro bytes tunnel
  have arrives : Connection.stream ⟨[bytes.take 60, bytes.drop 60], none⟩ = bytes := by
    simp [Connection.stream]
  have answers : Link.Answers ⟨tunnel, .ok ⟨[bytes.take 60, bytes.drop 60], none⟩⟩ Request.initial
      ⟨[bytes.take 60, bytes.drop 60], none⟩ (ascii "HTTP/1.1 200 OK")
      [(ascii "Transfer-Encoding", ascii "chunked")] (encodeChunks helloChunks ++ [13, 10]) :=
    ⟨by decide, rfl, headFits_chunked, arrives⟩
  exact fetchBuf_chunked answers (by decide) (by decide) (by decide) (by decide)

/-- A body in chunks that is cut off is not told from a complete one when the connection is
closed: what has arrived of its data is returned as a success. -/
theorem fetchBuf_chunked_cut {chunks : List Chunk} {front back : Text}
    (answers : link.Answers request connection status fields front)
    (chunked : (request.handled fields).dataHandler = .chunked)
    (unknown : (request.handled fields).contentLengthKnown = false)
    (short : ∀ chunk ∈ chunks, chunk.data.length < 2 ^ 64)
    (cut : front ++ back = encodeChunks chunks) (early : back ≠ []) (enough : link.turns ≤ fuel) :
    ∃ body rest, body ++ rest = chunkData chunks ∧
      fetchBuf fuel link =
        some (connection.ending.getD .ok, if body = [] then none else some body) := by
  obtain ⟨body, reader, rest, reads, whole⟩ := ChunkReader.decode_prefix short cut early
  refine ⟨body, rest, whole, ?_⟩
  rw [fetchBuf_decode answers chunked unknown enough, reads]
  rfl

theorem fetchBuf_chunked_cut_hello :
    let bytes := responseHead (ascii "HTTP/1.1 200 OK")
      [(ascii "Transfer-Encoding", ascii "chunked")] ++ (encodeChunks helloChunks).take 8
    ∃ body rest, body ++ rest = ascii "hello" ∧
      fetchBuf (bytes.length + 2) ⟨none, .ok ⟨[bytes], none⟩⟩ =
        some (.ok, if body = [] then none else some body) := by
  intro bytes
  have arrives : Connection.stream ⟨[bytes], none⟩ = bytes := by simp [Connection.stream]
  have answers : Link.Answers ⟨none, .ok ⟨[bytes], none⟩⟩ Request.initial ⟨[bytes], none⟩
      (ascii "HTTP/1.1 200 OK") [(ascii "Transfer-Encoding", ascii "chunked")]
      ((encodeChunks helloChunks).take 8) := ⟨rfl, rfl, headFits_chunked, arrives⟩
  exact fetchBuf_chunked_cut answers (by decide) (by decide) (by decide)
    (List.take_append_drop 8 (encodeChunks helloChunks)) (by decide) (by decide)

/-- A body of known length is complete when all of it has arrived; otherwise it is reported as
partial, or with the error that the connection ends with. -/
theorem fetchBuf_length {body : Text}
    (answers : link.Answers request connection status fields body)
    (plain : (request.handled fields).dataHandler = .identity)
    (known : (request.handled fields).contentLengthKnown = true)
    (within : body.length ≤ (request.handled fields).contentLength) (enough : link.turns ≤ fuel) :
    fetchBuf fuel link =
      some (if body.length = (request.handled fields).contentLength then .ok
        else if connection.ending.getD .ok = .ok then .partialFile
        else connection.ending.getD .ok, some body) := by
  have fresh := (Link.fresh_opened answers.opened).handled fields
  have decoded : (request.handled fields).decoded body =
      (body, .inl (request.handled fields).toChunkReader) := by
    rw [Request.decoded, plain]
  have settled : (request.handled fields).Settled body := by
    intro _
    rw [plain, fresh.contentReceived, Nat.zero_add]
    exact within
  have collected : ((request.handled fields).deliver fetchBufCb none body).1 = some body := by
    rw [Request.deliver, plain]
    rfl
  rw [fetchBuf_responseHead answers enough settled, Request.returned, decoded, known,
    fresh.contentReceived, Nat.zero_add, collected]
  by_cases complete : body.length = (request.handled fields).contentLength
  · simp [complete]
  · have less : body.length < (request.handled fields).contentLength := by omega
    have missing : ¬(request.handled fields).contentLength ≤ body.length := by omega
    simp [complete, less, missing]

theorem fetchBuf_length_hel :
    let bytes := responseHead (ascii "HTTP/1.1 206 Partial Content")
      [(ascii "Content-Length", ascii "5")] ++ ascii "hel"
    fetchBuf (bytes.length + 2) ⟨none, .ok ⟨[bytes.take 50, bytes.drop 50], none⟩⟩ =
      some (.partialFile, some (ascii "hel")) := by
  intro bytes
  have arrives : Connection.stream ⟨[bytes.take 50, bytes.drop 50], none⟩ = bytes := by
    simp [Connection.stream]
  have answers : Link.Answers ⟨none, .ok ⟨[bytes.take 50, bytes.drop 50], none⟩⟩ Request.initial
      ⟨[bytes.take 50, bytes.drop 50], none⟩ (ascii "HTTP/1.1 206 Partial Content")
      [(ascii "Content-Length", ascii "5")] (ascii "hel") :=
    ⟨rfl, rfl, ⟨.inr (by decide), by decide, by decide, by decide, by decide⟩, arrives⟩
  exact fetchBuf_length answers (by decide) (by decide) (by decide) (by decide)

end Fetched

end Waitress
