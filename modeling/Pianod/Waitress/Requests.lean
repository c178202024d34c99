import Pianod.Foundation.HttpStream
import Pianod.Waitress.Authorization

/-!
# Requests

A request is written in pieces: its first lines, the length of the posted data, the credentials,
further header fields and the data.  Where the first lines fit into the buffer and each write takes
all of its piece, a server reads back what was meant.
-/

namespace Waitress

open Foundation HttpResponse

/-- `WAITRESS_METHOD_GET` and `WAITRESS_METHOD_POST`. -/
inductive Method where
  | get
  | post
deriving DecidableEq, Repr

def Method.name : Method → Text
  | .get => ascii "GET"
  | .post => ascii "POST"

/-- What a handle says about the request. -/
structure Sender where
  method : Method
  url : Url
  /-- Whether the connection uses TLS. -/
  tls : Bool
  /-- The proxy, if it has a host. -/
  proxy : Url
  /-- The body. -/
  postData : Option Text
  /-- Header lines, as they are sent. -/
  extraHeaders : Option Text

/-- The path without the slash that is written before it. -/
def Url.requestPath (url : Url) : Text :=
  match url.path with
  | none => []
  | some (47 :: path) => path
  | some path => path

/-- The port of a URL without TLS. -/
def Url.defaultPort (url : Url) : Text := url.port.getD (ascii "80")

namespace Sender

def proxyEnabled (sender : Sender) : Bool := sender.proxy.host.isSome

/-- What the request line asks for. -/
def target (sender : Sender) (host : Text) : Text :=
  if sender.proxyEnabled && !sender.tls then
    ascii "http://" ++ host ++ ascii ":" ++ sender.url.defaultPort ++ ascii "/" ++
      sender.url.requestPath
  else ascii "/" ++ sender.url.requestPath

def requestLine (sender : Sender) (host : Text) : Text :=
  sender.method.name ++ ascii " " ++ sender.target host ++ ascii " HTTP/1.1"

/-- The header fields that every request has. -/
def hostFields (host : Text) : List Text :=
  [ascii "Host: " ++ host, ascii "User-Agent: libwaitress", ascii "Connection: Close"]

/-- The first lines. -/
def opening (sender : Sender) (host : Text) : Text :=
  sender.requestLine host ++ crlf ++ (hostFields host).flatMap (· ++ crlf)

/-- The data, where the method has any. -/
def posted (sender : Sender) : Option Text :=
  if sender.method = .post then sender.postData else none

/-- The line with the length of the data, if there is any. -/
def lengthLine (sender : Sender) : Option Text :=
  sender.posted.map fun postData =>
    (ascii "Content-Length: " ++ ascii (toString postData.length) ++ crlf).take (bufferSize - 1)

/-- The proxy's credentials are for the proxy only, which does not see a request under TLS. -/
def proxyAuthorization (sender : Sender) : Except Fault (Option Text) :=
  if sender.tls then .ok none
  else formatAuthorization sender.proxy (ascii "Proxy-") bufferSize bufferSize

/-- The pieces that are written one after another, as far as they are there. -/
def writes (sender : Sender) (host : Text) : List (Except Fault (Option Text)) :=
  [.ok (some ((sender.opening host).take (bufferSize - 1))), .ok sender.lengthLine,
    formatAuthorization sender.url [] bufferSize bufferSize, sender.proxyAuthorization,
    .ok sender.extraHeaders, .ok (some crlf), .ok sender.posted]

end Sender

/-- What each write to a socket comes to: the number of bytes that it takes, or an error. -/
abbrev Socket := Nat → Except Return Nat

/-- Write one piece after another until an error is reported; what a write does not take is lost. -/
def transmit (socket : Socket) : Nat → List (Except Fault (Option Text)) →
    Except Fault (Return × Text)
  | _, [] => .ok (.ok, [])
  | _, .error fault :: _ => .error fault
  | call, .ok none :: pieces => transmit socket call pieces
  | call, .ok (some piece) :: pieces =>
      match socket call with
      | .error code => .ok (code, [])
      | .ok taken => (transmit socket (call + 1) pieces).map fun (code, sent) =>
          (code, piece.take taken ++ sent)

/-- Write a request: the code that is returned, and the bytes that the server gets. -/
def Sender.sendRequest (sender : Sender) (socket : Socket) : Except Fault (Return × Text) :=
  match sender.url.host with
  | none => .error .nullDereference
  | some host => transmit socket 0 (sender.writes host)

/-- Whether or not the writes take their pieces whole, success is reported; all bytes are sent
exactly if they do. -/
theorem transmit_whole (taken : Nat → Nat) (call : Nat) (pieces : List (Option Text)) :
    ∃ sent, transmit (fun call => .ok (taken call)) call (pieces.map .ok) = .ok (.ok, sent) ∧
      sent.length ≤ (pieces.filterMap id).flatten.length ∧
      (sent = (pieces.filterMap id).flatten ↔
        ∀ index piece, (pieces.filterMap id)[index]? = some piece →
          piece.length ≤ taken (call + index)) := by
  induction pieces generalizing call with
  | nil =>
      refine ⟨[], rfl, Nat.le_refl _, fun _ index piece there => ?_, fun _ => rfl⟩
      cases there
  | cons piece pieces induction =>
      cases piece with
      | none => exact induction call
      | some piece =>
          obtain ⟨sent, writes, fewer, whole⟩ := induction (call + 1)
          have shorter := List.length_take_le' (taken call) piece
          have first : (some piece :: pieces).filterMap id = piece :: pieces.filterMap id := rfl
          rw [first]
          refine ⟨piece.take (taken call) ++ sent, ?_, ?_, ?_⟩
          · rw [List.map_cons, transmit]
            dsimp only
            rw [writes]
            rfl
          · rw [List.flatten_cons, List.length_append, List.length_append]
            omega
          · rw [List.flatten_cons]
            constructor
            · intro same
              have total := congrArg List.length same
              rw [List.length_append, List.length_append, List.length_take] at total
              obtain ⟨-, rest⟩ := List.append_inj same (by rw [List.length_take]; omega)
              intro index other there
              cases index with
              | zero =>
                  cases there
                  change piece.length ≤ taken call
                  omega
              | succ index =>
                  have later := whole.mp rest index other there
                  rwa [Nat.add_assoc, Nat.add_comm 1] at later
            · intro all
              have here : piece.length ≤ taken call := all 0 piece rfl
              rw [List.take_of_length_le here, whole.mpr fun index other there => ?_]
              have later := all (index + 1) other there
              rwa [← Nat.add_assoc, Nat.add_right_comm] at later

/-! ## What the server reads -/

/-- The request line, the header fields and what follows them. -/
def readRequest (bytes : Text) : Option (Text × List Text × Text) :=
  match readLine bytes with
  | none => none
  | some (line, rest) =>
      (readFields (rest.length + 1) rest).map fun (fields, rest) => (line, fields, rest)

private theorem readRequest_lines {line : Text} {fields : List Text} (whole : newline ∉ line)
    (lines : ∀ field ∈ fields, newline ∉ field ∧ field ≠ []) (rest : Text) :
    readRequest (line ++ crlf ++ (fields.flatMap (· ++ crlf) ++ crlf ++ rest)) =
      some (line, fields, rest) := by
  have enough : fields.length < (fields.flatMap (· ++ crlf) ++ crlf ++ rest).length + 1 := by
    have least := length_le_flatMap fields
    rw [List.length_append, List.length_append]
    omega
  rw [readRequest, readLine_line whole]
  dsimp only
  rw [readFields_fields lines enough]
  rfl

/-- The field with the credentials of a URL, if it has any. -/
def credentialFields (url : Url) (namePrefix : Text) : List Text :=
  (url.userPass.map fun userPass =>
    namePrefix ++ ascii "Authorization: Basic " ++ base64Groups userPass).toList

/-- The buffer has room for the credentials of every URL. -/
theorem formatAuthorization_eq {url : Url} {namePrefix : Text} (short : namePrefix.length ≤ 6)
    (more : ∀ userPass, url.userPass = some userPass → userPass.length ≠ 1) :
    ∃ answer, formatAuthorization url namePrefix bufferSize bufferSize = .ok answer ∧
      answer.getD [] = (credentialFields url namePrefix).flatMap (· ++ crlf) := by
  cases given : url.userPass with
  | none => exact ⟨none, by rw [formatAuthorization, given], by rw [credentialFields, given]; rfl⟩
  | some userPass =>
      have limit := length_userPass_le given
      have whole : (namePrefix ++ ascii "Authorization: Basic " ++ base64Groups userPass ++
          ascii "\r\n").length = namePrefix.length + (userPass.length + 2) / 3 * 4 + 23 := by
        rw [List.length_append, List.length_append, List.length_append, length_base64Groups]
        change namePrefix.length + 21 + (userPass.length + 2) / 3 * 4 + 2 = _
        omega
      have room : bufferSize = 10240 := rfl
      refine ⟨some (namePrefix ++ ascii "Authorization: Basic " ++ base64Groups userPass ++
        ascii "\r\n"), ?_, ?_⟩
      · rw [formatAuthorization, given]
        dsimp only
        rw [(base64Encode_eq_ok userPass).mpr (more userPass given)]
        change (if _ then _ else _) = _
        rw [List.take_of_length_le (by rw [whole, room]; omega), whole,
          if_pos (by rw [room]; omega)]
      · rw [credentialFields, given]
        exact (List.append_nil _).symm

theorem newline_ne_letterOf (idx : UInt8) : newline ≠ letterOf idx := by
  have absent : newline ∉ base64Alphabet := by decide
  rw [letterOf, base64Letter, List.getD_eq_getElem?_getD]
  cases found : base64Alphabet[idx.toNat]? with
  | none => decide
  | some letter => exact fun same => absent (same ▸ List.mem_of_getElem? found)

private theorem newline_not_mem_base64Groups (input : Text) : newline ∉ base64Groups input := by
  have pad : newline ≠ base64Pad := by decide
  induction input using base64Groups.induct with
  | case1 => exact List.not_mem_nil
  | case2 first => simp [base64Groups, newline_ne_letterOf, pad]
  | case3 first second => simp [base64Groups, newline_ne_letterOf, pad]
  | case4 first second third rest ih => simp [base64Groups, newline_ne_letterOf, ih]

theorem credentialFields_lines (url : Url) {namePrefix : Text} (whole : newline ∉ namePrefix) :
    ∀ field ∈ credentialFields url namePrefix, newline ∉ field ∧ field ≠ [] := by
  intro field member
  obtain ⟨userPass, -, rfl⟩ := Option.map_eq_some_iff.mp (Option.mem_toList.mp member)
  have title : newline ∉ ascii "Authorization: Basic " := by decide
  refine ⟨?_, by simp [ascii]⟩
  simp only [List.mem_append, not_or]
  exact ⟨⟨whole, title⟩, newline_not_mem_base64Groups userPass⟩

namespace Sender

/-- The header fields of a request, with further ones. -/
def requestFields (sender : Sender) (host : Text) (further : List Text) : List Text :=
  hostFields host ++
    (sender.posted.map fun postData =>
      ascii "Content-Length: " ++ ascii (toString postData.length)).toList ++
    credentialFields sender.url [] ++
    (if sender.tls then [] else credentialFields sender.proxy (ascii "Proxy-")) ++ further

/-- The parts of a request that are written as they are stay on their lines. -/
structure OnLines (sender : Sender) (host : Text) (further : List Text) : Prop where
  host : newline ∉ host
  port : newline ∉ sender.url.defaultPort
  path : newline ∉ sender.url.requestPath
  further : ∀ field ∈ further, newline ∉ field ∧ field ≠ []

variable (sender : Sender) {host : Text} {further : List Text}

private theorem newline_not_mem_requestLine (lines : sender.OnLines host further) :
    newline ∉ sender.requestLine host := by
  have method : newline ∉ sender.method.name := by cases sender.method <;> decide
  have marks : newline ∉ ascii " " ∧ newline ∉ ascii " HTTP/1.1" ∧ newline ∉ ascii "http://" ∧
      newline ∉ ascii ":" ∧ newline ∉ ascii "/" := by decide
  have target : newline ∉ sender.target host := by
    rw [Sender.target]
    split <;> simp only [List.mem_append, not_or]
    · exact ⟨⟨⟨⟨⟨marks.2.2.1, lines.host⟩, marks.2.2.2.1⟩, lines.port⟩, marks.2.2.2.2⟩, lines.path⟩
    · exact ⟨marks.2.2.2.2, lines.path⟩
  simp only [requestLine, List.mem_append, not_or]
  exact ⟨⟨⟨method, marks.1⟩, target⟩, marks.2.1⟩

private theorem hostFields_lines (whole : newline ∉ host) :
    ∀ field ∈ hostFields host, newline ∉ field ∧ field ≠ [] := by
  have title : newline ∉ ascii "Host: " := by decide
  rw [hostFields, List.forall_mem_cons, List.forall_mem_cons, List.forall_mem_singleton]
  refine ⟨⟨?_, by simp [ascii]⟩, by decide, by decide⟩
  rw [List.mem_append, not_or]
  exact ⟨title, whole⟩

private theorem requestFields_lines (lines : sender.OnLines host further) :
    ∀ field ∈ sender.requestFields host further, newline ∉ field ∧ field ≠ [] := by
  intro field member
  simp only [requestFields, List.mem_append] at member
  rcases member with (((known | length) | own) | proxy) | more
  · exact hostFields_lines lines.host field known
  · obtain ⟨postData, -, rfl⟩ := Option.map_eq_some_iff.mp (Option.mem_toList.mp length)
    have title : newline ∉ ascii "Content-Length: " := by decide
    refine ⟨?_, by simp [ascii]⟩
    rw [List.mem_append, not_or]
    refine ⟨title, fun digit => ?_⟩
    exact absurd (isdigit_of_mem_decimal digit) (by decide)
  · exact credentialFields_lines _ List.not_mem_nil field own
  · split at proxy
    · cases proxy
    · exact credentialFields_lines _ (by decide) field proxy
  · exact lines.further field more

/-- The length has twenty digits at most. -/
theorem lengthLine_eq
    (sized : ∀ postData, sender.posted = some postData → postData.length < 2 ^ 64) :
    sender.lengthLine.getD [] = (sender.posted.map fun postData =>
      ascii "Content-Length: " ++ ascii (toString postData.length)).toList.flatMap (· ++ crlf) := by
  rw [lengthLine]
  cases given : sender.posted with
  | none => rfl
  | some postData =>
      have digits : (ascii (toString postData.length)).length ≤ 20 := by
        rw [ascii_toString, List.length_map,
          Nat.length_toDigits_le_iff (by decide) (by decide)]
        exact (sized postData given).trans (by decide)
      have title : (ascii "Content-Length: ").length = 16 := rfl
      have room : bufferSize = 10240 := rfl
      have ending : crlf.length = 2 := rfl
      rw [Option.map_some, Option.getD_some, List.take_of_length_le]
      · exact (List.append_nil _).symm
      · rw [List.length_append, List.length_append, title, room, ending]
        omega

private theorem proxyAuthorization_eq
    (more : ∀ userPass, sender.proxy.userPass = some userPass → userPass.length ≠ 1) :
    ∃ answer, sender.proxyAuthorization = .ok answer ∧
      answer.getD [] =
        (if sender.tls then [] else credentialFields sender.proxy (ascii "Proxy-")).flatMap
          (· ++ crlf) := by
  rw [proxyAuthorization]
  cases sender.tls with
  | true => exact ⟨none, rfl, rfl⟩
  | false => exact formatAuthorization_eq (by decide) more

/-- If the first lines fit into the buffer and no credentials are a colon only, a server reads the
request line, every field and the data of the pieces as they were meant.  Sending them succeeds
whatever the writes take, and the server gets all bytes exactly if each write takes its piece. -/
theorem sendRequest_read (named : sender.url.host = some host)
    (fits : (sender.opening host).length < bufferSize)
    (own : ∀ userPass, sender.url.userPass = some userPass → userPass.length ≠ 1)
    (proxy : ∀ userPass, sender.proxy.userPass = some userPass → userPass.length ≠ 1)
    (given : sender.extraHeaders.getD [] = further.flatMap (· ++ crlf))
    (lines : sender.OnLines host further)
    (sized : ∀ postData, sender.posted = some postData → postData.length < 2 ^ 64) :
    ∃ pieces : List Text,
      readRequest pieces.flatten = some (sender.requestLine host,
        sender.requestFields host further, sender.posted.getD []) ∧
      ∀ taken : Nat → Nat, ∃ sent,
        sender.sendRequest (fun call => .ok (taken call)) = .ok (.ok, sent) ∧
        (sent = pieces.flatten ↔
          ∀ call piece, pieces[call]? = some piece → piece.length ≤ taken call) := by
  obtain ⟨answer, formats, writes⟩ := @formatAuthorization_eq sender.url [] (Nat.zero_le _) own
  obtain ⟨other, proxied, hands⟩ := sender.proxyAuthorization_eq proxy
  let pieces := [some (sender.opening host), sender.lengthLine, answer, other,
    sender.extraHeaders, some crlf, sender.posted]
  have joined : ∀ pieces : List (Option Text),
      (pieces.filterMap id).flatten = pieces.flatMap (·.getD []) := by
    intro pieces
    induction pieces with
    | nil => rfl
    | cons piece pieces induction =>
        cases piece with
        | none => exact induction
        | some piece => exact congrArg (piece ++ ·) induction
  have steps : sender.writes host = pieces.map .ok := by
    rw [Sender.writes, formats, proxied, List.take_of_length_le (by omega)]
    rfl
  refine ⟨pieces.filterMap id, ?_, fun taken => ?_⟩
  · have read := readRequest_lines (sender.newline_not_mem_requestLine lines)
      (sender.requestFields_lines lines) (sender.posted.getD [])
    rw [joined, ← read]
    simp only [pieces, List.flatMap_cons, List.flatMap_nil, Option.getD_some,
      sender.lengthLine_eq sized, writes, hands, given, opening, requestFields,
      List.flatMap_append, List.append_assoc, List.append_nil]
  · obtain ⟨sent, sends, -, whole⟩ := transmit_whole taken 0 pieces
    refine ⟨sent, ?_, ?_⟩
    · rw [sendRequest, named]
      dsimp only
      rw [steps, sends]
    · simpa only [Nat.zero_add] using whole

/-- Data is posted with the credentials of a user. -/
theorem sendRequest_read_post :
    let sender : Sender := ⟨.post, ⟨some (ascii "me"), some (ascii "pw"), some (ascii "host"), none,
      some (ascii "/services")⟩, false, Url.empty, some (ascii "data"), none⟩
    ∃ pieces : List Text,
      readRequest pieces.flatten = some (sender.requestLine (ascii "host"),
        sender.requestFields (ascii "host") [], sender.posted.getD []) ∧
      ∀ taken : Nat → Nat, ∃ sent,
        sender.sendRequest (fun call => .ok (taken call)) = .ok (.ok, sent) ∧
        (sent = pieces.flatten ↔
          ∀ call piece, pieces[call]? = some piece → piece.length ≤ taken call) := by
  intro sender
  refine sender.sendRequest_read rfl (by decide) ?_ ?_ rfl ⟨by decide, by decide, by decide, ?_⟩ ?_
  · rintro _ ⟨⟩
    decide
  · rintro _ ⟨⟩
  · exact fun _ member => absurd member List.not_mem_nil
  · rintro _ ⟨⟩
    decide

end Sender

end Waitress
