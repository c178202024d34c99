import Pianod.Football.EventLoop
import Pianod.Football.HttpAnswers
import Pianod.Football.LineOutput

/-!
# One HTTP request after another

A client may keep its connection and send the next request on it.  The lines of a request are
collected one by one; the blank line at its end makes the server answer.  The journal of the
connection tells which bytes were queued for the client.
-/

namespace Football

open Foundation Football.System

/-- The lines of a request, less their line ends, and the world as the request finds it. -/
structure ClientRequest where
  line : Text
  headers : List Text
  site : Site

namespace ClientRequest

/-- The words of the request line. -/
def words (request : ClientRequest) : List Text :=
  (InputLine.ofBytes request.line).argv.map Term.word

/-- The method of a request. -/
def method (request : ClientRequest) : Text := request.words.headD []

/-- Whether a request is for the header only. -/
def isHead (request : ClientRequest) : Bool := request.method.strcasecmp (ascii "head") == .eq

/-- A complete `GET` or `HEAD` request: no line but the last one is blank. -/
structure Complete (request : ClientRequest) : Prop where
  method : request.method.strcasecmp (ascii "get") = .eq ∨
    request.method.strcasecmp (ascii "head") = .eq
  line : newline ∉ request.line
  headers : ∀ header ∈ request.headers,
    newline ∉ header ∧ (InputLine.ofBytes header).argv ≠ []

/-- A request with some of its header lines, as the server collects it. -/
def collect (collected : HttpRequest) (headers : List Text) : HttpRequest :=
  headers.foldl
    (fun collected header => collectHttpParameter (InputLine.ofBytes header).command collected)
    collected

/-- The request as the server collects it, for a service with or without a name. -/
def collected (request : ClientRequest) (named : Bool) : HttpRequest :=
  collect (collectHttpRequest named request.words .none) request.headers

end ClientRequest

/-- The place of a client: it has a connection to some service, or the connection is gone. -/
inductive HttpSession where
  | serving (service : Nat) (connection : Connection)
  | gone
deriving DecidableEq, Repr

namespace HttpSession

/-- Interpret a line of a request; once a connection closes or is upgraded, requests are over. -/
def readRequestLine (services : List Service) (site : Site) (service : Nat)
    (options : ServiceOptions) (connection : Connection) (line : InputLine) :
    Except Fault ReadOutcome :=
  match connection.state with
  | .greeting => readGreeting services service options connection line
  | .gatheringHeader =>
      if line.argv.isEmpty then executeHttpRequest services site service options connection
      else .ok (.goesOn
        { connection with request := collectHttpParameter line.command connection.request }
        none none)
  | _ => .ok (.goesOn connection none none)

/-- Reading on a connection that expects a request is reading a line and interpreting it. -/
theorem readSession_line {services : List Service} {site : Site} {service : Nat}
    {options : ServiceOptions} {connection after : Connection} {line : InputLine}
    (expecting : connection.state = .greeting ∨ connection.state = .gatheringHeader)
    (read : connection.readLineInput = .ok (some line, after))
    (state : after.state = connection.state) :
    readSession services site service options connection =
      readRequestLine services site service options after line := by
  rcases expecting with expecting | expecting <;>
    simp only [readSession, readRequestLine, state, expecting, read]

/-- The options of a service. -/
def optionsOf (services : List Service) (service : Nat) : ServiceOptions :=
  ((services[service]?).map Service.options).getD ⟨ascii "HELO", none, none, .off⟩

/-- Where a client is after some input was attended to. -/
def next (service : Nat) : ReadOutcome → HttpSession
  | .goesOn connection _ moved => .serving (moved.getD service) connection
  | .fallsBack connection _ => .serving service connection
  | .destroyed => .gone

/-- Take one line of a request. -/
def takeLine (services : List Service) (site : Site) (session : HttpSession) (line : Text) :
    Except Fault HttpSession :=
  match session with
  | .gone => .ok .gone
  | .serving service connection =>
      (readRequestLine services site service (optionsOf services service) connection
        (.ofBytes line)).map (next service)

/-- Take a whole request with the blank line at its end. -/
def takeRequest (services : List Service) (session : HttpSession) (request : ClientRequest) :
    Except Fault HttpSession :=
  FallibleRun.run (takeLine services request.site) session
    (request.line :: (request.headers ++ [[]]))

/-- A connection with a request collected for its service. -/
def asking (services : List Service) (service : Nat) (connection : Connection)
    (request : ClientRequest) : Connection :=
  { connection with
    request := request.collected (optionsOf services service).name.isSome
    state := .gatheringHeader
    http := true }

/-- If a request is a `HEAD` request, it is for a file of the service that executes it. -/
def HeadForFile (services : List Service) (session : HttpSession) (request : ClientRequest) :
    Prop :=
  match session with
  | .gone => True
  | .serving service connection =>
      request.isHead = true →
        ∀ moved options,
          executingService services request.site service (optionsOf services service)
              (asking services service connection request) = .ok (moved, options) →
            FileRequest request.site options (asking services service connection request).request

end HttpSession

/-! ## Sending messages -/

namespace Connection

private theorem writeMessages_queued {before after : Connection} {messages : List Text}
    (written : before.writeMessages messages = .ok after) :
    queuedMessages after.journal = queuedMessages before.journal ++ messages := by
  induction messages generalizing before with
  | nil =>
      cases written
      rw [List.append_nil]
  | cons message messages ih =>
      rw [writeMessages] at written
      split at written
      · cases written
      · rename_i middle queued
        rw [ih written, queueHttp_queued queued, List.append_assoc]
        rfl

end Connection

/-! ## Collecting a request -/

private theorem quotedTerm_subset (text : Text) :
    (quotedTerm text).1 ⊆ text ∧ (quotedTerm text).2 ⊆ text := by
  induction text with
  | nil => exact ⟨List.Subset.refl _, List.Subset.refl _⟩
  | cons byte text ih =>
      rw [quotedTerm]
      split
      · exact ⟨List.nil_subset _, List.subset_cons_self _ _⟩
      · exact ⟨List.cons_subset_cons _ ih.1, List.subset_cons_of_subset _ ih.2⟩

private theorem splitTerms_subset {fuel : Nat} {text : Text} {term : Term}
    (member : term ∈ splitTerms fuel text) : term.word ⊆ text := by
  induction fuel generalizing text with
  | zero => cases member
  | succ fuel ih =>
      cases text with
      | nil => cases member
      | cons byte text =>
          have parts : (if byte == quote then quotedTerm text else plainTerm (byte :: text)).1 ⊆
                byte :: text ∧
              (if byte == quote then quotedTerm text else plainTerm (byte :: text)).2 ⊆
                byte :: text := by
            split
            · have inside := quotedTerm_subset text
              exact ⟨List.subset_cons_of_subset _ inside.1, List.subset_cons_of_subset _ inside.2⟩
            · exact ⟨(List.takeWhile_sublist _).subset,
                List.Subset.trans (List.drop_subset _ _) (List.dropWhile_sublist _).subset⟩
          rw [splitTerms] at member
          rcases List.mem_cons.mp member with rfl | later
          · exact parts.1
          · have skipped := List.Subset.trans (ih later) (List.dropWhile_sublist _).subset
            exact List.Subset.trans skipped parts.2

private theorem word_subset {line : Text} {term : Term}
    (member : term ∈ (InputLine.ofBytes line).argv) : term.word ⊆ line := by
  have skipped := List.Subset.trans (splitTerms_subset member) (List.dropWhile_sublist _).subset
  exact List.Subset.trans skipped (List.takeWhile_sublist _).subset

private theorem before_subset (byte : UInt8) (text : Text) : before byte text ⊆ text :=
  (List.takeWhile_sublist _).subset

theorem afterFirst_subset {byte : UInt8} {text rest : Text}
    (found : afterFirst byte text = some rest) : rest ⊆ text := by
  rw [afterFirst] at found
  split at found
  · cases found
  · rename_i shape
    cases found
    have kept := (List.dropWhile_sublist (l := text) (· != byte)).subset
    rw [shape] at kept
    exact fun _ member => kept (List.mem_cons_of_mem _ member)

namespace ClientRequest

/-- The host and the file name of a collected request are on one line. -/
structure OneLine (collected : HttpRequest) : Prop where
  host : ∀ host ∈ collected.host, newline ∉ host
  filename : ∀ filename ∈ collected.filename, newline ∉ filename

private theorem oneLine_collectHttpRequest {words : List Text}
    (lines : ∀ word ∈ words, newline ∉ word)
    (named : Bool) : OneLine (collectHttpRequest named words .none) := by
  cases words with
  | nil => exact ⟨nofun, nofun⟩
  | cons method arguments =>
  rw [collectHttpRequest_none]
  split
  · exact ⟨nofun, nofun⟩
  dsimp only
  split
  · rename_i path http rest
    have absent : newline ∉ before 63 path := fun member =>
      lines (47 :: path) (by simp) (List.mem_cons_of_mem _ (before_subset 63 path member))
    split
    · exact ⟨nofun, fun filename found member => absent (afterFirst_subset found member)⟩
    · refine ⟨nofun, ?_⟩
      rintro filename ⟨⟩
      exact absent
  · exact ⟨nofun, nofun⟩

private theorem oneLine_collectHttpParameter {collected : HttpRequest} (before : OneLine collected)
    {line : Text} (inside : newline ∉ line) :
    OneLine (collectHttpParameter line collected) := by
  rw [collectHttpParameter]
  split
  · exact ⟨before.host, before.filename⟩
  rename_i rest found
  have absent : newline ∉ rest.dropWhile isspace := fun member =>
    inside (afterFirst_subset found ((List.dropWhile_sublist _).subset member))
  dsimp only
  split_ifs
  · refine ⟨?_, before.filename⟩
    intro host known
    cases old : collected.host with
    | none =>
        rw [old] at known
        cases known
        exact absent
    | some kept =>
        rw [old] at known
        cases known
        exact before.host _ old
  all_goals exact ⟨before.host, before.filename⟩

private theorem headonly_collectHttpParameter (line : Text) (collected : HttpRequest) :
    (collectHttpParameter line collected).headonly = collected.headonly := by
  rw [collectHttpParameter]
  split
  · rfl
  dsimp only
  split_ifs <;> rfl

variable {request : ClientRequest} {headers : List Text}

private theorem oneLine_collect {collected : HttpRequest} (before : OneLine collected)
    (lines : ∀ header ∈ headers, newline ∉ header) : OneLine (collect collected headers) := by
  induction headers generalizing collected with
  | nil => exact before
  | cons header headers ih =>
      have inside : newline ∉ (InputLine.ofBytes header).command := fun member =>
        lines header List.mem_cons_self ((List.takeWhile_sublist _).subset member)
      exact ih (oneLine_collectHttpParameter before inside)
        fun other member => lines other (List.mem_cons_of_mem _ member)

private theorem headonly_collect (collected : HttpRequest) (headers : List Text) :
    (collect collected headers).headonly = collected.headonly := by
  induction headers generalizing collected with
  | nil => rfl
  | cons header headers ih => exact (ih _).trans (headonly_collectHttpParameter _ _)

/-- The words of a complete request start with its method. -/
theorem Complete.words_eq (complete : request.Complete) :
    ∃ arguments, request.words = request.method :: arguments := by
  cases known : request.words with
  | nil =>
      have empty : request.method = [] := by rw [ClientRequest.method, known, List.headD_nil]
      rcases complete.method with get | head
      · rw [empty] at get
        exact absurd get (by decide)
      · rw [empty] at head
        exact absurd head (by decide)
  | cons first arguments => exact ⟨arguments, by rw [ClientRequest.method, known, List.headD_cons]⟩

theorem Complete.oneLine (complete : request.Complete) (named : Bool) :
    OneLine (request.collected named) := by
  refine oneLine_collect (oneLine_collectHttpRequest ?_ named)
    fun header member => (complete.headers header member).1
  intro word member broken
  obtain ⟨term, inside, rfl⟩ := List.mem_map.mp member
  exact complete.line (word_subset inside broken)

/-- The method tells whether only the header is sent. -/
theorem Complete.headonly (complete : request.Complete) (named : Bool) :
    (request.collected named).headonly = request.isHead := by
  obtain ⟨arguments, words⟩ := complete.words_eq
  have supported : ¬(request.method.strcasecmp (ascii "head") != .eq &&
      request.method.strcasecmp (ascii "get") != .eq) = true := by
    rcases complete.method with get | head
    · simp only [get, bne_self_eq_false, Bool.and_false]
      decide
    · simp only [head, bne_self_eq_false, Bool.false_and]
      decide
  rw [collected, headonly_collect, words, collectHttpRequest_none, if_neg supported]
  dsimp only
  split
  · split <;> rfl
  · rfl

end ClientRequest

/-! ## Taking a request -/

namespace HttpSession

open FallibleRun

variable {services : List Service} {site : Site} {service : Nat} {connection : Connection}

/-- No more requests are taken: the connection closes, or it is a session by now. -/
def Ended : HttpSession → Prop
  | .gone => True
  | .serving _ connection => SocketState.opened.rank ≤ connection.state.rank

private theorem takeLine_ended {session : HttpSession} (ended : session.Ended) (line : Text) :
    takeLine services site session line = .ok session := by
  cases session with
  | gone => rfl
  | serving service connection =>
      have late : SocketState.opened.rank ≤ connection.state.rank := ended
      rw [takeLine, readRequestLine]
      cases state : connection.state with
      | greeting =>
          rw [state] at late
          exact absurd late (by decide)
      | gatheringHeader =>
          rw [state] at late
          exact absurd late (by decide)
      | _ => rfl

theorem run_takeLine_ended {session : HttpSession} (ended : session.Ended) (lines : List Text) :
    run (takeLine services site) session lines = .ok session := by
  induction lines with
  | nil => rfl
  | cons line lines ih => rw [run_cons_of_ok (takeLine_ended ended line), ih]

private theorem run_ended {session : HttpSession} (ended : session.Ended)
    (requests : List ClientRequest) :
    run (takeRequest services) session requests = .ok session := by
  induction requests with
  | nil => rfl
  | cons request requests ih =>
      have taken : takeRequest services session request = .ok session :=
        run_takeLine_ended ended _
      rw [run_cons_of_ok taken, ih]

/-- The request line begins a request, unless it is taken for a greeting. -/
theorem takeLine_request {request : ClientRequest} {after : HttpSession}
    (complete : request.Complete) (ready : connection.state = .greeting)
    (fresh : connection.request = .none)
    (taken : takeLine services site (.serving service connection) request.line = .ok after) :
    after.Ended ∨ after = .serving service { connection with
      request := collectHttpRequest (optionsOf services service).name.isSome request.words .none
      state := .gatheringHeader
      http := true } := by
  obtain ⟨arguments, words⟩ := complete.words_eq
  have http : httpCommand request.method = true := by
    rw [httpCommand, List.any_eq_true]
    rcases complete.method with get | head
    · refine ⟨ascii "GET", by decide, ?_⟩
      rw [beq_iff_eq, Text.strcasecmp_eq_iff, Text.strcasecmp_eq_iff.mp get]
      decide
    · refine ⟨ascii "HEAD", by decide, ?_⟩
      rw [beq_iff_eq, Text.strcasecmp_eq_iff, Text.strcasecmp_eq_iff.mp head]
      decide
  rw [takeLine, readRequestLine, ready] at taken
  obtain ⟨outcome, read, rfl⟩ := map_ok_iff.mp taken
  dsimp only at read
  rw [readGreeting, ← ClientRequest.words, words] at read
  dsimp only at read
  split at read
  · split at read
    · cases read
      exact .inl (Nat.le_refl _)
    · split at read
      · cases read
      · cases read
        exact .inl trivial
      · cases read
        exact .inl (Nat.le_refl _)
  · cases read
    rw [fresh, words]
    exact .inr rfl

/-- Header lines are collected. -/
theorem run_takeLine_headers {headers : List Text}
    (collecting : connection.state = .gatheringHeader)
    (filled : ∀ header ∈ headers, (InputLine.ofBytes header).argv ≠ []) :
    run (takeLine services site) (.serving service connection) headers =
      .ok (.serving service { connection with
        request := ClientRequest.collect connection.request headers }) := by
  induction headers generalizing connection with
  | nil => rfl
  | cons header headers ih =>
      have present : (InputLine.ofBytes header).argv.isEmpty = false :=
        List.isEmpty_eq_false_iff.mpr (filled header List.mem_cons_self)
      have taken : takeLine services site (.serving service connection) header =
          .ok (.serving service { connection with
            request := collectHttpParameter (InputLine.ofBytes header).command
              connection.request }) := by
        rw [takeLine, readRequestLine, collecting]
        simp only [present]
        rfl
      rw [run_cons_of_ok taken]
      exact ih collecting fun other member => filled other (List.mem_cons_of_mem _ member)

/-- A complete request ends the matter, or it is executed as it was collected. -/
theorem takeRequest_cases {request : ClientRequest} {after : HttpSession}
    (complete : request.Complete) (ready : connection.state = .greeting)
    (fresh : connection.request = .none)
    (taken : takeRequest services (.serving service connection) request = .ok after) :
    after.Ended ∨ ∃ outcome, executeHttpRequest services request.site service
        (optionsOf services service) (asking services service connection request) = .ok outcome ∧
      after = next service outcome := by
  obtain ⟨begun, first, rest⟩ := run_cons_ok_iff.mp taken
  rcases takeLine_request complete ready fresh first with ended | rfl
  · rw [run_takeLine_ended ended] at rest
    cases rest
    exact .inl ended
  · obtain ⟨collected, middle, last⟩ := run_append_ok_iff.mp rest
    rw [run_takeLine_headers rfl fun header member => (complete.headers header member).2] at middle
    cases middle
    obtain ⟨final, blank, done⟩ := run_cons_ok_iff.mp last
    cases done
    obtain ⟨outcome, executed, rfl⟩ := map_ok_iff.mp blank
    exact .inr ⟨outcome, executed, rfl⟩

/-! ## Answering it -/

/-- What a response is sent for: the client may go on, or it is the last one. -/
theorem respond_cases {answered : Connection} {messages : List Text} {again : Bool}
    (responded : connection.respond messages again = .ok answered) :
    SocketState.opened.rank ≤ answered.state.rank ∨
      again = true ∧ answered.state = .greeting ∧ answered.request = .none ∧
        queuedBytes answered.journal = queuedBytes connection.journal ++ messages.flatten := by
  rw [Connection.respond] at responded
  split at responded
  · cases responded
  rename_i sent written
  have queued : queuedBytes sent.journal = queuedBytes connection.journal ++ messages.flatten := by
    rw [queuedBytes_eq, Connection.writeMessages_queued written, List.flatten_append,
      ← queuedBytes_eq]
  dsimp only at responded
  split at responded
  · rename_i repeated
    split at responded
    · cases responded
      exact .inr ⟨repeated, rfl, rfl, queued⟩
    · rename_i late
      cases responded
      exact .inl (Nat.le_of_not_lt late)
  · cases responded
    refine .inl ?_
    rw [Connection.closeConnection]
    dsimp only
    split
    · decide
    · rename_i late
      exact Nat.le_of_lt (Nat.lt_of_not_le late)

/-- Executing a request ends the matter, or it is answered and the client may go on. -/
theorem executeHttpRequest_cases {options : ServiceOptions} {outcome : ReadOutcome}
    (executed : executeHttpRequest services site service options connection = .ok outcome) :
    (next service outcome).Ended ∨ ∃ moved executing messages answered,
      executingService services site service options connection = .ok (moved, executing) ∧
      httpAnswer site executing connection.encrypted connection.request =
        .respond messages true ∧
      next service outcome = .serving (moved.getD service) answered ∧
      answered.state = .greeting ∧ answered.request = .none ∧
      queuedBytes answered.journal = queuedBytes connection.journal ++ messages.flatten := by
  rw [executeHttpRequest] at executed
  split at executed
  · cases executed
  rename_i moved executing found
  cases answer : httpAnswer site executing connection.encrypted connection.request with
  | respond messages again =>
      rw [answer] at executed
      obtain ⟨answered, responded, rfl⟩ := map_ok_iff.mp executed
      rcases respond_cases responded with late | ⟨rfl, state, request, queued⟩
      · exact .inl late
      · exact .inr ⟨moved, executing, messages, answered, found, answer, rfl, state, request,
          queued⟩
  | elsewhere name =>
      rw [answer] at executed
      obtain ⟨answered, responded, rfl⟩ := map_ok_iff.mp executed
      rcases respond_cases responded with late | ⟨again, -⟩
      · exact .inl late
      · cases again
  | upgrade key =>
      rw [answer] at executed
      obtain ⟨answered, upgraded, rfl⟩ := map_ok_iff.mp executed
      rw [Connection.upgradeWebsocket] at upgraded
      split at upgraded
      · cases upgraded
      · cases upgraded
        exact .inl (Nat.le_refl _)

/-- The names of services are on one line each. -/
def Named (services : List Service) : Prop :=
  ∀ found ∈ services, ∀ name ∈ found.options.name, newline ∉ name

theorem Named.optionsOf (named : Named services) (service : Nat) :
    ∀ name ∈ (HttpSession.optionsOf services service).name, newline ∉ name := by
  intro name known
  rw [HttpSession.optionsOf] at known
  cases found : services[service]? with
  | none =>
      rw [found] at known
      cases known
  | some record =>
      rw [found] at known
      exact named record (List.mem_of_getElem? found) name known

/-- The service that executes a request has a name on one line. -/
theorem Named.executing (named : Named services) {moved : Option Nat}
    {executing : ServiceOptions}
    (found : executingService services site service (HttpSession.optionsOf services service)
      connection = .ok (moved, executing)) :
    ∀ name ∈ executing.name, newline ∉ name := by
  have own := named.optionsOf service
  rw [executingService] at found
  split at found
  · split at found
    · cases found
    · cases found
      exact own
    · rename_i other searched
      cases found
      intro name known
      cases there : services[other]? with
      | none =>
          rw [there] at known
          exact own name known
      | some record =>
          rw [there] at known
          exact named record (List.mem_of_getElem? there) name known
  · cases found
    exact own

open HttpResponse in
/-- A request that lets the client go on is answered by one whole response, unless it is a `HEAD`
request and not for a file: then the client gets out of step. -/
theorem takeRequest_kept {request : ClientRequest} {after : Connection} {moved : Nat}
    (named : Named services) (regular : request.site.Regular) (complete : request.Complete)
    (ready : connection.state = .greeting) (fresh : connection.request = .none)
    (taken : takeRequest services (.serving service connection) request =
      .ok (.serving moved after)) (open_yet : ¬(serving moved after).Ended) :
    after.state = .greeting ∧ after.request = .none ∧ ∃ bytes,
      queuedBytes after.journal = queuedBytes connection.journal ++ bytes ∧
      ∀ requests rest, (readAll (request.isHead :: requests) (bytes ++ rest)).isSome = true ↔
        HeadForFile services (.serving service connection) request ∧
          (readAll requests rest).isSome = true := by
  rcases takeRequest_cases complete ready fresh taken with ended | ⟨outcome, executed, same⟩
  · exact absurd ended open_yet
  rcases executeHttpRequest_cases executed with
    ended | ⟨other, executing, messages, answered, found, answer, place, greeting, request_none,
      queued⟩
  · exact absurd (same ▸ ended) open_yet
  rw [place] at same
  cases same
  have clean : Clean executing (asking services service connection request).request :=
    ⟨named.executing found, (complete.oneLine _).host, (complete.oneLine _).filename⟩
  have headonly : (asking services service connection request).request.headonly =
      request.isHead := complete.headonly _
  have for_file : HeadForFile services (.serving service connection) request ↔
      (request.isHead = true →
        FileRequest request.site executing
        (asking services service connection request).request) := by
    constructor
    · exact fun condition head => condition head other executing found
    · intro condition head moved options same
      obtain ⟨rfl, rfl⟩ := Prod.mk.inj (Except.ok.inj (found.symm.trans same))
      exact condition head
  refine ⟨greeting, request_none, messages.flatten, queued, fun requests rest => ?_⟩
  rw [for_file]
  rcases httpAnswer_again clean answer with
    ⟨file, name, served, serves, rfl⟩ | ⟨⟨message, extra, detail, page, rfl⟩, not_file⟩
  · obtain ⟨-, directory, -, there⟩ := serves
    rw [← headonly, readAll_file regular (regular.files _ _ there)]
    exact (and_iff_right fun _ => file).symm
  · rw [List.flatten_singleton]
    cases head : request.isHead with
    | true =>
        rw [readAll_page_head regular page]
        exact iff_of_false Bool.false_ne_true fun condition => not_file (condition.1 rfl)
    | false =>
        rw [readAll_page regular page]
        exact (and_iff_right nofun).symm

/-- On a connection that the server keeps open, a client reads the bytes queued for it as exactly
one response for each of its requests if and only if each of its `HEAD` requests is for a file. -/
theorem responses_inStep_iff {requests : List ClientRequest} {moved : Nat} {after : Connection}
    (named : Named services) (regular : ∀ request ∈ requests, request.site.Regular)
    (complete : ∀ request ∈ requests, request.Complete) (ready : connection.state = .greeting)
    (fresh : connection.request = .none)
    (taken : run (takeRequest services) (.serving service connection) requests =
      .ok (.serving moved after)) (kept : after.state = .greeting) :
    ∃ bytes, queuedBytes after.journal = queuedBytes connection.journal ++ bytes ∧
      ((HttpResponse.readAll (requests.map ClientRequest.isHead) bytes).isSome = true ↔
        Guarded (takeRequest services) (HeadForFile services) (.serving service connection)
          requests) := by
  induction requests generalizing service connection with
  | nil =>
      cases taken
      refine ⟨[], by rw [List.append_nil], ?_⟩
      exact iff_of_true rfl trivial
  | cons request requests ih =>
      obtain ⟨next, first, rest⟩ := run_cons_ok_iff.mp taken
      have later (other : ClientRequest) (member : other ∈ requests) :
          other ∈ request :: requests := List.mem_cons_of_mem _ member
      by_cases ended : next.Ended
      · rw [run_ended ended] at rest
        cases rest
        rw [Ended, kept] at ended
        exact absurd ended (by decide)
      cases next with
      | gone => exact absurd trivial ended
      | serving middle answered =>
          obtain ⟨greeting, request_none, front, queued, one⟩ := takeRequest_kept named
            (regular request List.mem_cons_self) (complete request List.mem_cons_self) ready fresh
            first ended
          obtain ⟨back, all, others⟩ := ih (fun other member => regular other (later other member))
            (fun other member => complete other (later other member)) greeting request_none rest
          refine ⟨front ++ back, by rw [all, queued, List.append_assoc], ?_⟩
          rw [List.map_cons, one, others]
          constructor
          · rintro ⟨condition, guarded⟩
            exact Guarded.cons condition first guarded
          · exact fun guarded => ⟨guarded.1, guarded.2 _ first⟩

/-- A service that serves a directory, and a world with one file in it. -/
def sampleServices : List Service := [⟨⟨ascii "HELO", none, some (ascii "d"), .off⟩, none, false⟩]

def sampleFile : ServedFile := ⟨ascii "Mon", 2, ascii "ok", fun _ => false⟩

def sampleSite : Site where
  version := ascii "2"
  now := ascii "Tue"
  expiration := ascii "Wed"
  openFile := fun name => if name = ascii "d/a" then .file sampleFile else .missing
  acceptCode := id

def sampleClient : Connection := System.newConnection 5 .greeting true false false [] []

def sampleHead (line : String) : ClientRequest := ⟨ascii line, [ascii "Host: h"], sampleSite⟩

private theorem sampleSite_regular : sampleSite.Regular := by
  refine ⟨by decide, by decide, by decide, fun name served found => ?_⟩
  rw [sampleSite] at found
  dsimp only at found
  split at found
  · cases found
    exact ⟨rfl, by decide, by decide⟩
  · cases found

set_option maxRecDepth 8000 in
/-- A `HEAD` request for the file. -/
theorem sampleHead_inStep : ∃ moved after bytes,
    run (takeRequest sampleServices) (.serving 0 sampleClient) [sampleHead "HEAD /a HTTP/1.1"] =
        .ok (.serving moved after) ∧
      queuedBytes after.journal = bytes ∧ (HttpResponse.readAll [true] bytes).isSome = true := by
  have complete : (sampleHead "HEAD /a HTTP/1.1").Complete :=
    ⟨.inr (by decide), by decide, by decide⟩
  have guarded : Guarded (takeRequest sampleServices) (HeadForFile sampleServices)
      (.serving 0 sampleClient) [sampleHead "HEAD /a HTTP/1.1"] := by
    refine ⟨fun _ moved options found => ?_, fun _ _ => trivial⟩
    cases found
    exact ⟨rfl, nofun, sampleFile, by decide, ascii "d", rfl, rfl⟩
  obtain ⟨bytes, queued, inStep⟩ := @responses_inStep_iff sampleServices 0 sampleClient
    [sampleHead "HEAD /a HTTP/1.1"] _ _
    (fun found member name known => by
      rw [List.mem_singleton.mp member] at known
      cases known)
    (fun request member => by
      rw [List.mem_singleton.mp member]
      exact sampleSite_regular)
    (fun request member => by
      rw [List.mem_singleton.mp member]
      exact complete)
    rfl rfl rfl rfl
  exact ⟨_, _, bytes, rfl, queued, inStep.mpr guarded⟩

set_option maxRecDepth 8000 in
/-- A `HEAD` request for something else is answered by a page. -/
theorem sampleHead_surplus : ∃ moved after,
    run (takeRequest sampleServices) (.serving 0 sampleClient) [sampleHead "HEAD /b HTTP/1.1"] =
        .ok (.serving moved after) ∧
      after.state = .greeting ∧
      HttpResponse.readAll [true] (queuedBytes after.journal) = none :=
  ⟨_, _, rfl, rfl, rfl⟩

end HttpSession

end Football
