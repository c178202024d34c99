import Pianod.Football.HttpRequest
import Pianod.Foundation.HttpStream

/-!
# What HTTP answers look like

An answer is a page, made of a header with the length of the page and the page itself, or a file.
With a file the server minds whether the client expects a body; a page is always sent whole.
-/

namespace Football

open Foundation

/-- The file of a request is there, may be served and is not a directory. -/
def Serves (site : Site) (options : ServiceOptions) (request : HttpRequest)
    (served : ServedFile) : Prop :=
  maliciousRequest (requestedFile request) = false ∧
    ∃ directory, options.serveDirectory = some directory ∧
      site.openFile (directory ++ ascii "/" ++ requestedFile request) = .file served

/-- A request that is answered by sending a file, not by a redirection or an error. -/
structure FileRequest (site : Site) (options : ServiceOptions) (request : HttpRequest) : Prop where
  plain : request.upgradeType = none
  /-- When services have names, the request is for something in a service. -/
  inside : options.name.isSome → request.serviceName.isSome →
    request.filename.isSome ∧ request.serviceName ≠ some []
  found : ∃ served, Serves site options request served

/-- A served file that stays as it is and is smaller than 4 GiB, with its date on one line. -/
structure ServedFile.Regular (served : ServedFile) : Prop where
  unchanged : served.size = served.contents.length
  small : served.size < 2 ^ 32
  dated : newline ∉ served.lastModified

/-- The version and the dates are texts on one line, and the files are regular. -/
structure Site.Regular (site : Site) : Prop where
  version : newline ∉ site.version
  now : newline ∉ site.now
  expiration : newline ∉ site.expiration
  files : ∀ name served, site.openFile name = .file served → served.Regular

/-! ## What an answer looks like -/

section Answers

open HttpResponse

/-- The header of a page: a status other than 304 on one line, and at most one more field, which
does not give the length. -/
structure PageHeader (message : Text) (extra : Option (Text × Text)) : Prop where
  status : newline ∉ message
  modified : bodyless false message = false
  other : ∀ pair ∈ extra, OtherLabel pair.1 ∧ newline ∉ pair.2

/-- The fields of a page of a certain length. -/
def pageFields (site : Site) (length : Nat) (extra : Option (Text × Text)) : List Text :=
  sized [(ascii "Date", site.now)] length
    ((ascii "Content-type", ascii "text/html; charset=utf-8") ::
      (ascii "Server", ascii "pianod-" ++ site.version) :: extra.toList)

/-- The page that goes with a status. -/
def pageBody (message : Text) (detail : Option Text) : Text :=
  ascii "<!doctype html>\r\n<html><head>\r\n<title>" ++ message ++
    ascii "</title>\r\n</head><body>\r\n<h1>" ++ message ++ ascii "</h1>\r\n<p>" ++
    detail.getD (ascii "See Figure 1.") ++ ascii "</p>\r\n</body></html>\r\n"

/-- A response with a page is a header with its fields and the page. -/
theorem httpHeader_eq (site : Site) (message : Text) (extra : Option (Text × Text))
    (detail : Option Text) :
    httpHeader site message (extra.map fun pair => field pair.1 pair.2) detail =
      header message (pageFields site (pageBody message detail).length extra) ++
        pageBody message detail := by
  have date : ascii "\r\nDate: " = crlf ++ (ascii "Date" ++ [58, 32]) := by decide
  have size : ascii "\r\nContent-length: " = crlf ++ (ascii "Content-length" ++ [58, 32]) := by
    decide
  have type : ascii "\r\nContent-type: text/html; charset=utf-8\r\nServer: pianod-" =
      crlf ++ (ascii "Content-type" ++ 58 :: 32 :: ascii "text/html; charset=utf-8") ++
        (crlf ++ (ascii "Server" ++ 58 :: 32 :: ascii "pianod-")) := by decide
  have start : ascii "HTTP/1.1 " = HttpResponse.version := rfl
  have line : ascii "\r\n" = crlf := by decide
  rw [httpHeader, ← pageBody, date, size, type, start, line]
  cases extra with
  | none => simp [header, pageFields, sized, fieldsOf, field, decimal]
  | some pair => simp [header, pageFields, sized, fieldsOf, field, decimal]

theorem notMem_server {site : Site} (regular : site.Regular) :
    newline ∉ ascii "pianod-" ++ site.version := by
  rw [List.mem_append, not_or]
  exact ⟨by decide, regular.version⟩

theorem pageFields_others {site : Site} (regular : site.Regular) {message : Text}
    {extra : Option (Text × Text)} (page : PageHeader message extra) :
    ∀ pair ∈ [(ascii "Date", site.now)] ++
        ((ascii "Content-type", ascii "text/html; charset=utf-8") ::
          (ascii "Server", ascii "pianod-" ++ site.version) :: extra.toList),
      OtherLabel pair.1 ∧ newline ∉ pair.2 := by
  intro pair member
  simp only [List.cons_append, List.nil_append, List.mem_cons, Option.mem_toList] at member
  rcases member with rfl | rfl | rfl | more
  · exact ⟨(by decide : OtherLabel (ascii "Date")), regular.now⟩
  · decide
  · exact ⟨(by decide : OtherLabel (ascii "Server")), notMem_server regular⟩
  · exact page.other pair more

/-- A page as a client reads it that expects a body. -/
theorem readAll_page {site : Site} (regular : site.Regular) {message : Text}
    {extra : Option (Text × Text)} (page : PageHeader message extra) (detail : Option Text)
    (requests : List Bool) (rest : Text) :
    (readAll (false :: requests)
        (httpHeader site message (extra.map fun pair => field pair.1 pair.2) detail ++
          rest)).isSome =
      (readAll requests rest).isSome := by
  have others := pageFields_others regular page
  rw [httpHeader_eq, List.append_assoc]
  exact readAll_body (onLines_sized page.status others _) page.modified
    (contentLength_sized (fun pair member => (others pair member).1) _) rest

/-- A page throws a client out of step that expects a header only. -/
theorem readAll_page_head {site : Site} (regular : site.Regular) {message : Text}
    {extra : Option (Text × Text)} (page : PageHeader message extra) (detail : Option Text)
    (requests : List Bool) (rest : Text) :
    readAll (true :: requests)
      (httpHeader site message (extra.map fun pair => field pair.1 pair.2) detail ++ rest) =
        none := by
  have tag : ∃ body, pageBody message detail = 60 :: body := ⟨_, rfl⟩
  obtain ⟨body, shape⟩ := tag
  rw [httpHeader_eq, List.append_assoc, shape]
  exact readAll_surplus (onLines_sized page.status (pageFields_others regular page) _) rfl
    (by decide) rest

/-- The blocks of a file make up its contents. -/
theorem flatten_blocksOf {fuel : Nat} {contents : Text} (enough : contents.length ≤ fuel) :
    (blocksOf fuel contents).flatten = contents := by
  induction fuel generalizing contents with
  | zero =>
      obtain rfl := List.length_eq_zero_iff.mp (Nat.le_zero.mp enough)
      rfl
  | succ fuel ih =>
      cases contents with
      | nil => rfl
      | cons byte contents =>
          have fewer : ((byte :: contents).drop 4096).length ≤ fuel := by
            rw [List.length_drop, List.length_cons]
            rw [List.length_cons] at enough
            omega
          rw [blocksOf, List.flatten_cons, ih fewer, List.take_append_drop]
          exact nofun

/-- The fields that go with a file. -/
def fileFields (site : Site) (served : ServedFile) (name : Text) : List Text :=
  sized [(ascii "Date", site.now), (ascii "Expires", site.expiration),
      (ascii "Last-Modified", served.lastModified)] (served.size % 2 ^ 32)
    [(ascii "Content-type", getMediaType name), (ascii "Server", ascii "pianod-" ++ site.version)]

/-- Whether a client has a file already. -/
def cached (request : HttpRequest) (served : ServedFile) : Bool :=
  !request.headonly && (request.ifModifiedSince.map served.unchangedSince).getD false

/-- The status that goes with a file. -/
def fileStatus (request : HttpRequest) (served : ServedFile) : Text :=
  if cached request served then ascii "304 Not modified" else ascii "200 Ok"

/-- A file is answered by a header and, unless it is not wanted, its contents. -/
theorem httpServeData_file (site : Site) (options : ServiceOptions) (encrypted : Bool)
    (request : HttpRequest) (name : Text) (served : ServedFile) :
    (httpServeData site options encrypted request name (.file served)).1.flatten =
      header (fileStatus request served) (fileFields site served name) ++
        (if request.headonly || cached request served then [] else served.contents) := by
  have date : ascii "\r\nDate: " = crlf ++ (ascii "Date" ++ [58, 32]) := by decide
  have expires : ascii "\r\nExpires: " = crlf ++ (ascii "Expires" ++ [58, 32]) := by decide
  have modified : ascii "\r\nLast-Modified: " = crlf ++ (ascii "Last-Modified" ++ [58, 32]) := by
    decide
  have size : ascii "\r\nContent-length: " = crlf ++ (ascii "Content-length" ++ [58, 32]) := by
    decide
  have type : ascii "\r\nContent-type: " = crlf ++ (ascii "Content-type" ++ [58, 32]) := by decide
  have server : ascii "\r\nServer: pianod-" =
      crlf ++ (ascii "Server" ++ 58 :: 32 :: ascii "pianod-") := by decide
  have start : ascii "HTTP/1.1 " = HttpResponse.version := rfl
  have line : ascii "\r\n\r\n" = crlf ++ crlf := by decide
  have blocks := flatten_blocksOf (Nat.le_refl served.contents.length)
  simp only [httpServeData, date, expires, modified, size, type, server, start, line,
    List.flatten_cons, fileStatus, cached]
  refine congrArg₂ (· ++ ·) ?_ ?_
  · simp only [header, fileFields, sized, fieldsOf, field, decimal]
    simp
  · split
    · rename_i silent
      exact List.flatten_nil.trans (if_pos silent).symm
    · rename_i due
      exact blocks.trans (if_neg due).symm

private theorem notMem_getMediaType (name : Text) : newline ∉ getMediaType name := by
  rw [getMediaType]
  dsimp only
  split_ifs
  · cases known : List.find? _ _ with
    | none => decide
    | some pair =>
        have listed := List.mem_of_find?_eq_some known
        have lines : ∀ entry ∈ [(ascii "jpg", ascii "image/jpeg"),
            (ascii "jpeg", ascii "image/jpeg"), (ascii "gif", ascii "image/gif"),
            (ascii "png", ascii "image/png"), (ascii "html", ascii "text/html"),
            (ascii "txt", ascii "text/plain"), (ascii "js", ascii "application/javascript"),
            (ascii "css", ascii "text/css")], newline ∉ entry.2 := by decide
        exact lines pair listed
  · decide

private theorem fileFields_others {site : Site} (regular : site.Regular) {served : ServedFile}
    (dated : newline ∉ served.lastModified) (name : Text) :
    ∀ pair ∈ [(ascii "Date", site.now), (ascii "Expires", site.expiration),
        (ascii "Last-Modified", served.lastModified)] ++
        [(ascii "Content-type", getMediaType name),
          (ascii "Server", ascii "pianod-" ++ site.version)],
      OtherLabel pair.1 ∧ newline ∉ pair.2 := by
  intro pair member
  simp only [List.cons_append, List.nil_append, List.mem_cons, List.not_mem_nil, or_false]
    at member
  rcases member with rfl | rfl | rfl | rfl | rfl
  · exact ⟨(by decide : OtherLabel (ascii "Date")), regular.now⟩
  · exact ⟨(by decide : OtherLabel (ascii "Expires")), regular.expiration⟩
  · exact ⟨(by decide : OtherLabel (ascii "Last-Modified")), dated⟩
  · exact ⟨(by decide : OtherLabel (ascii "Content-type")), notMem_getMediaType name⟩
  · exact ⟨(by decide : OtherLabel (ascii "Server")), notMem_server regular⟩

private theorem fileStatus_line (request : HttpRequest) (served : ServedFile) :
    newline ∉ fileStatus request served := by
  rw [fileStatus]
  split <;> decide

private theorem bodyless_fileStatus (request : HttpRequest) (served : ServedFile) :
    bodyless request.headonly (fileStatus request served) =
      (request.headonly || cached request served) := by
  rw [bodyless, fileStatus]
  cases cached request served <;> rfl

/-- The answer with a file is one whole response to any request. -/
theorem readAll_file {site : Site} (regular : site.Regular) {served : ServedFile}
    (lasting : served.Regular) (options : ServiceOptions) (encrypted : Bool)
    (request : HttpRequest) (name : Text) (requests : List Bool) (rest : Text) :
    (readAll (request.headonly :: requests)
        ((httpServeData site options encrypted request name (.file served)).1.flatten ++
          rest)).isSome =
      (readAll requests rest).isSome := by
  have others := fileFields_others regular lasting.dated name
  have lines := onLines_sized (fileStatus_line request served) others (served.size % 2 ^ 32)
  have due := bodyless_fileStatus request served
  rw [httpServeData_file, List.append_assoc]
  cases silent : request.headonly || cached request served with
  | true =>
      rw [silent] at due
      rw [if_pos rfl, List.nil_append]
      exact readAll_bodyless lines due rest
  | false =>
      rw [silent] at due
      have size : contentLength (fileFields site served name) = some served.contents.length := by
        rw [fileFields, contentLength_sized (fun pair member => (others pair member).1),
          Nat.mod_eq_of_lt lasting.small, lasting.unchanged]
      rw [if_neg Bool.false_ne_true]
      exact readAll_body lines due size rest

/-! ## Which requests are answered by a page -/

/-- One message that is a page. -/
def Page (site : Site) (messages : List Text) : Prop :=
  ∃ message extra detail, PageHeader message extra ∧
    messages = [httpHeader site message (extra.map fun pair => field pair.1 pair.2) detail]

/-- The texts of a request that may get into a header are on one line. -/
structure Clean (options : ServiceOptions) (request : HttpRequest) : Prop where
  name : ∀ name ∈ options.name, newline ∉ name
  host : ∀ host ∈ request.host, newline ∉ host
  filename : ∀ filename ∈ request.filename, newline ∉ filename

variable {site : Site} {options : ServiceOptions} {encrypted : Bool} {request : HttpRequest}

theorem page_response {message : String} (line : newline ∉ ascii message)
    (modified : bodyless false (ascii message) = false) : Page site [httpResponse site message] :=
  ⟨ascii message, none, none, ⟨line, modified, nofun⟩, rfl⟩

theorem newline_not_mem_slashed {part : Option Text} (line : ∀ text ∈ part, newline ∉ text) :
    newline ∉ (match part with
      | none => ([] : Text)
      | some part => part ++ ascii "/") := by
  cases part with
  | none => exact List.not_mem_nil
  | some text =>
      rw [List.mem_append, not_or]
      exact ⟨line text rfl, by decide⟩

/-- A redirection is a page with a location on one line. -/
theorem page_redirect (clean : Clean options request) :
    Page site [redirectToSubdirectory site options encrypted request] := by
  have host : newline ∉ request.host.getD (ascii "(null)") := by
    cases known : request.host with
    | none => decide
    | some host => exact clean.host host known
  refine ⟨ascii "301 Permanently moved", some (ascii "Location", _), some _,
    ⟨by decide, by decide, ?_⟩, rfl⟩
  rintro pair ⟨⟩
  refine ⟨(by decide : OtherLabel (ascii "Location")), ?_⟩
  simp only [List.mem_append, not_or]
  refine ⟨⟨⟨⟨⟨⟨by decide, ?_⟩, by decide⟩, host⟩, by decide⟩, newline_not_mem_slashed clean.name⟩,
    newline_not_mem_slashed clean.filename⟩
  cases encrypted <;> decide

/-- What a request for a file leads to, if the client may then go on. -/
theorem httpFileRequest_again {messages : List Text} (clean : Clean options request)
    (answered : httpFileRequest site options encrypted request = (messages, true)) :
    (∃ name served, Serves site options request served ∧ messages =
        (httpServeData site options encrypted request name (.file served)).1) ∨
      Page site messages ∧ ∀ served, ¬Serves site options request served := by
  rw [httpFileRequest] at answered
  split at answered
  · rename_i nowhere
    cases answered
    refine .inr ⟨page_response (by decide) (by decide), fun _ ⟨_, _, there, _⟩ => ?_⟩
    exact nomatch nowhere.symm.trans there
  rename_i directory there
  split at answered
  · rename_i malicious
    cases answered
    refine .inr ⟨page_response (by decide) (by decide), fun _ ⟨harmless, _⟩ => ?_⟩
    exact nomatch malicious.symm.trans harmless
  rename_i harmless
  have opened {answer : FileAnswer}
      (found : site.openFile (directory ++ ascii "/" ++ requestedFile request) = answer)
      {served : ServedFile} (serves : Serves site options request served) :
      answer = .file served := by
    obtain ⟨-, other, also, file⟩ := serves
    obtain rfl := Option.some.inj (there.symm.trans also)
    exact found.symm.trans file
  cases found : site.openFile (directory ++ ascii "/" ++ requestedFile request) with
  | file served =>
      rw [found] at answered
      exact .inl ⟨_, served, ⟨Bool.eq_false_of_not_eq_true harmless, directory, there, found⟩,
        (congrArg Prod.fst answered).symm⟩
  | missing =>
      rw [found] at answered
      cases answered
      exact .inr ⟨page_response (by decide) (by decide),
        fun _ serves => nomatch opened found serves⟩
  | refused =>
      rw [found] at answered
      cases answered
      exact .inr ⟨page_response (by decide) (by decide),
        fun _ serves => nomatch opened found serves⟩
  | unreadable =>
      rw [found] at answered
      cases answered
  | directory =>
      rw [found] at answered
      cases answered
      exact .inr ⟨page_redirect clean, fun _ serves => nomatch opened found serves⟩

/-- What a client that may go on was answered: a file, exactly if it asked for one, or a page. -/
theorem httpAnswer_again {messages : List Text} (clean : Clean options request)
    (answered : httpAnswer site options encrypted request = .respond messages true) :
    (FileRequest site options request ∧ ∃ name served, Serves site options request served ∧
        messages = (httpServeData site options encrypted request name (.file served)).1) ∨
      Page site messages ∧ ¬FileRequest site options request := by
  rw [httpAnswer] at answered
  dsimp only at answered
  split at answered
  · cases answered
  split at answered
  · cases answered
  split at answered
  · cases answered
  split at answered
  · cases answered
  split at answered
  · rename_i nameless
    cases answered
    refine .inr ⟨page_redirect clean, fun file => ?_⟩
    simp only [Bool.and_eq_true] at nameless
    obtain ⟨⟨⟨⟨named, present⟩, absent⟩, -⟩, -⟩ := nameless
    have filename := (file.inside named present).1
    rw [Option.isNone_iff_eq_none] at absent
    rw [absent] at filename
    cases filename
  rename_i not_nameless
  split at answered
  · rename_i top
    cases answered
    refine .inr ⟨page_redirect clean, fun file => ?_⟩
    simp only [Bool.and_eq_true, beq_iff_eq] at top
    obtain ⟨⟨⟨named, present⟩, -⟩, empty⟩ := top
    exact (file.inside named present).2 empty
  rename_i not_top
  split at answered
  · cases answered
  rename_i not_elsewhere
  cases upgrade : request.upgradeType with
  | none =>
      rw [upgrade] at answered
      have inside (named : options.name.isSome = true)
          (present : request.serviceName.isSome = true) :
          request.filename.isSome = true ∧ request.serviceName ≠ some [] := by
        have here : sameName request.serviceName options.name = true := by
          simpa [named, present] using not_elsewhere
        refine ⟨?_, fun empty => not_top ?_⟩
        · rw [Option.isSome_iff_ne_none]
          simpa [named, present, upgrade, here] using not_nameless
        · simp [named, empty, upgrade]
      have kept : httpFileRequest site options encrypted request = (messages, true) := by
        dsimp only at answered
        cases file : httpFileRequest site options encrypted request with
        | mk sent again =>
            rw [file] at answered
            cases answered
            rfl
      rcases httpFileRequest_again clean kept with ⟨name, served, serves, sent⟩ | ⟨page, none⟩
      · exact .inl ⟨⟨upgrade, inside, served, serves⟩, name, served, serves, sent⟩
      · exact .inr ⟨page, fun file => file.found.elim none⟩
  | some type =>
      rw [upgrade] at answered
      dsimp only at answered
      split at answered
      · cases answered
      split at answered
      · cases answered
        refine .inr ⟨⟨ascii "400 Bad Request", some (ascii "Sec-WebSocket-Version", ascii "13"), _,
          ⟨by decide, by decide, ?_⟩, rfl⟩, fun file => nomatch file.plain.symm.trans upgrade⟩
        rintro pair ⟨⟩
        decide
      split at answered
      · cases answered
      split at answered <;> cases answered

end Answers

end Football
