import Pianod.Football.Input
import Pianod.Football.UrlDecode

/-!
# HTTP requests

A connection on the HTTP port collects a request line by line and then answers it: with an error
page, with a file, by upgrading to a WebSocket session, or on behalf of another service.  What the
answer is depends only on the request and the service; sending it is a separate step.
-/

namespace Football

open Foundation

/-- How a service uses greetings. -/
inductive GreetingMode where
  | off
  | allow
  | fallback
  | require
deriving DecidableEq, Repr

/-- The options of a service that decide how requests are handled. -/
structure ServiceOptions where
  /-- What a client is greeted with. -/
  greeting : Text
  name : Option Text
  /-- The directory of the files that are served. -/
  serveDirectory : Option Text
  /-- Whether a client has to greet first. -/
  greetingMode : GreetingMode
deriving DecidableEq, Repr

/-- A file that is served. -/
structure ServedFile where
  /-- The date as the header names it. -/
  lastModified : Text
  /-- The size that `fstat` returns. -/
  size : Nat
  contents : Text
  /-- Whether a date sent by the client is the modification time. -/
  unchangedSince : Text → Bool

/-- What opening a file finds. -/
inductive FileAnswer where
  | missing
  | refused
  | unreadable
  | directory
  | file (served : ServedFile)

/-- The outside world as a request finds it. -/
structure Site where
  /-- The version of the server. -/
  version : Text
  /-- The date of the answer. -/
  now : Text
  /-- The date at which a page expires. -/
  expiration : Text
  /-- What opening a path comes to. -/
  openFile : Text → FileAnswer
  /-- The answer to a WebSocket key. -/
  acceptCode : Text → Text

def decimal (number : Nat) : Text := ascii (toString number)

/-! ## Collecting a request -/

/-- The methods that make a line an HTTP request. -/
def httpCommands : List Text :=
  [ascii "GET", ascii "HEAD", ascii "POST", ascii "OPTIONS", ascii "PUT", ascii "DELETE",
    ascii "TRACE", ascii "CONNECT"]

/-- Whether a command is an HTTP request. -/
def httpCommand (command : Text) : Bool :=
  httpCommands.any fun method => command.strcasecmp method == .eq

/-- A text is decoded only if the request is invalid already, which then becomes whether the text is
encoded correctly. -/
def decodeInvalid (invalid : Bool) (text : Text) : Bool × Text :=
  if invalid then urlDecode text else (false, text)

/-- Collect the relevant bits of a request line. -/
def collectHttpRequest (named : Bool) (argv : List Text) (request : HttpRequest) : HttpRequest :=
  match argv with
  | [] => request
  | method :: arguments =>
      if method.strcasecmp (ascii "head") != .eq && method.strcasecmp (ascii "get") != .eq then
        { request with unsupported := true }
      else
        let request := { request with
          headonly := request.headonly || method.strcasecmp (ascii "head") == .eq }
        match arguments with
        | (47 :: path) :: http :: _ =>
            -- HTTP parameters are not used.
            let resource := before 63 path
            if named then
              let (invalid, filename) := match afterFirst 47 resource with
                | none => (request.invalid, request.filename)
                | some filename =>
                    let (invalid, filename) := decodeInvalid request.invalid filename
                    (invalid, some filename)
              let (invalid, serviceName) := decodeInvalid invalid (before 47 resource)
              { request with
                http := some http
                serviceName := some serviceName
                filename := filename
                invalid := invalid }
            else
              let (invalid, serviceName) := decodeInvalid request.invalid resource
              { request with
                http := some http
                serviceName := some serviceName
                filename := some serviceName
                invalid := invalid }
        | _ => request

/-- A request line that starts a request never makes it invalid, and decodes nothing. -/
theorem collectHttpRequest_none (named : Bool) (method : Text) (arguments : List Text) :
    collectHttpRequest named (method :: arguments) .none =
      if method.strcasecmp (ascii "head") != .eq && method.strcasecmp (ascii "get") != .eq then
        { HttpRequest.none with unsupported := true }
      else
        let request := { HttpRequest.none with
          headonly := method.strcasecmp (ascii "head") == .eq }
        match arguments with
        | (47 :: path) :: http :: _ =>
            let resource := before 63 path
            if named then { request with
                http := some http
                serviceName := some (before 47 resource)
                filename := afterFirst 47 resource }
            else { request with
                http := some http, serviceName := some resource, filename := some resource }
        | _ => request := by
  rw [collectHttpRequest]
  split
  · rfl
  · rw [show HttpRequest.none.headonly = false from rfl, Bool.false_or]
    dsimp only
    split
    · rename_i path http rest
      split
      · cases afterFirst 47 (before 63 path) <;> rfl
      · rfl
    · rfl

/-- Store a value, or consider it an error if it is a duplicate. -/
def store (value : Option Text) (newvalue : Text) : Option Text × Bool :=
  match value with
  | some old => (some old, true)
  | none => (some newvalue, false)

/-- Collect a header line that is relevant. -/
def collectHttpParameter (line : Text) (request : HttpRequest) : HttpRequest :=
  match afterFirst 58 line with
  | none => { request with invalid := true }
  | some rest =>
      let name := before 58 line
      let value := rest.dropWhile isspace
      if name = ascii "Host" then
        let (host, duplicate) := store request.host value
        { request with host := host, invalid := request.invalid || duplicate }
      else if name = ascii "Sec-WebSocket-Protocol" then
        let (protocol, duplicate) := store request.websocketProtocol value
        { request with websocketProtocol := protocol, invalid := request.invalid || duplicate }
      else if name = ascii "Sec-WebSocket-Version" then
        let (version, duplicate) := store request.websocketVersion value
        { request with websocketVersion := version, invalid := request.invalid || duplicate }
      else if name = ascii "Sec-WebSocket-Key" then
        let (key, duplicate) := store request.websocketKey value
        { request with websocketKey := key, invalid := request.invalid || duplicate }
      else if name = ascii "Upgrade" then
        let (upgrade, duplicate) := store request.upgradeType value
        { request with upgradeType := upgrade, invalid := request.invalid || duplicate }
      else if name = ascii "If-Modified-Since" then
        let (since, duplicate) := store request.ifModifiedSince value
        { request with ifModifiedSince := since, invalid := request.invalid || duplicate }
      else request

/-! ## Answers -/

/-- A response with an explanatory page. -/
def httpHeader (site : Site) (message : Text) (extraHeader detail : Option Text) : Text :=
  let body := ascii "<!doctype html>\r\n<html><head>\r\n<title>" ++ message ++
    ascii "</title>\r\n</head><body>\r\n<h1>" ++ message ++ ascii "</h1>\r\n<p>" ++
    detail.getD (ascii "See Figure 1.") ++ ascii "</p>\r\n</body></html>\r\n"
  ascii "HTTP/1.1 " ++ message ++ ascii "\r\nDate: " ++ site.now ++
    ascii "\r\nContent-length: " ++ decimal body.length ++
    ascii "\r\nContent-type: text/html; charset=utf-8\r\nServer: pianod-" ++ site.version ++
    ascii "\r\n" ++ (extraHeader.map (· ++ ascii "\r\n")).getD [] ++ ascii "\r\n" ++ body

def httpResponse (site : Site) (message : String) : Text :=
  httpHeader site (ascii message) none none

def httpRedirect (site : Site) (location : Text) : Text :=
  httpHeader site (ascii "301 Permanently moved") (some (ascii "Location: " ++ location))
    (some (ascii "Try <a href='" ++ location ++ ascii "'>here</a>."))

/-- Redirect to the contents of a directory. -/
def redirectToSubdirectory (site : Site) (options : ServiceOptions) (encrypted : Bool)
    (request : HttpRequest) : Text :=
  let slashed : Option Text → Text
    | none => []
    | some part => part ++ ascii "/"
  httpRedirect site (ascii "http" ++ (if encrypted then ascii "s" else []) ++ ascii "://" ++
    request.host.getD (ascii "(null)") ++ ascii "/" ++ slashed options.name ++
    slashed request.filename)

/-- The media type that goes with a file's extension. -/
def getMediaType (filename : Text) : Text :=
  let types : List (Text × Text) :=
    [(ascii "jpg", ascii "image/jpeg"), (ascii "jpeg", ascii "image/jpeg"),
      (ascii "gif", ascii "image/gif"), (ascii "png", ascii "image/png"),
      (ascii "html", ascii "text/html"), (ascii "txt", ascii "text/plain"),
      (ascii "js", ascii "application/javascript"), (ascii "css", ascii "text/css")]
  let extension := (filename.reverse.takeWhile (· != 46)).reverse
  let known := if 46 ∈ filename then
      types.find? fun (known, _) => known.strcasecmp extension == .eq
    else none
  (known.map Prod.snd).getD (ascii "text/plain")

/-- Cut contents into blocks of 4096 bytes. -/
def blocksOf : Nat → Text → List Text
  | 0, _ => []
  | _, [] => []
  | fuel + 1, contents => contents.take 4096 :: blocksOf fuel (contents.drop 4096)

/-- Serve a file; the answer tells whether the client may try again. -/
def httpServeData (site : Site) (options : ServiceOptions) (encrypted : Bool)
    (request : HttpRequest) (name : Text) : FileAnswer → List Text × Bool
  | .missing => ([httpResponse site "404 Not found"], true)
  | .refused => ([httpResponse site "401 Unauthorized"], true)
  | .unreadable => ([httpResponse site "500 Internal server error"], false)
  | .directory => ([redirectToSubdirectory site options encrypted request], true)
  | .file served =>
      let cached :=
        !request.headonly && (request.ifModifiedSince.map served.unchangedSince).getD false
      let header := ascii "HTTP/1.1 " ++
        (if cached then ascii "304 Not modified" else ascii "200 Ok") ++ ascii "\r\nDate: " ++
        site.now ++ ascii "\r\nExpires: " ++ site.expiration ++ ascii "\r\nLast-Modified: " ++
        -- The size is printed as an unsigned int.
        served.lastModified ++ ascii "\r\nContent-length: " ++ decimal (served.size % 2 ^ 32) ++
        ascii "\r\nContent-type: " ++ getMediaType name ++ ascii "\r\nServer: pianod-" ++
        site.version ++ ascii "\r\n\r\n"
      (header :: (if request.headonly || cached then []
        else blocksOf served.contents.length served.contents), true)

/-- Whether two bytes occur next to each other. -/
def hasPair (left right : UInt8) (text : Text) : Bool :=
  (text.zip text.tail).any fun (byte, next) => byte == left && next == right

/-- Hidden files and parent directories are not served. -/
def maliciousRequest (filename : Text) : Bool :=
  filename.head? == some 46 || hasPair 47 46 filename

/-- The file a request is about. -/
def requestedFile (request : HttpRequest) : Text :=
  match request.filename with
  | none => ascii "index.html"
  | some filename =>
      if filename = [] ∨ filename.getLast? = some 47 then filename ++ ascii "/index.html"
      else filename

/-- Handle a request for a file. -/
def httpFileRequest (site : Site) (options : ServiceOptions) (encrypted : Bool)
    (request : HttpRequest) : List Text × Bool :=
  let filename := requestedFile request
  match options.serveDirectory with
  | none => ([httpResponse site "503 Service unavailable"], true)
  | some directory =>
      if maliciousRequest filename then ([httpResponse site "406 Not acceptable"], true)
      else httpServeData site options encrypted request filename
        (site.openFile (directory ++ ascii "/" ++ filename))

/-- How a request is answered. -/
inductive HttpAnswer where
  /-- Send messages; the client may then try again, or else the connection is closed. -/
  | respond (messages : List Text) (tryAgain : Bool)
  /-- Look for another service. -/
  | elsewhere (name : Text)
  /-- Start a WebSocket session. -/
  | upgrade (key : Text)
deriving DecidableEq, Repr

/-- Whether two optional names are both present and the same. -/
def sameName (left right : Option Text) : Bool :=
  match left, right with
  | some left, some right => left.strcasecmp right == .eq
  | _, _ => false

/-- Interpret a collected request. -/
def httpAnswer (site : Site) (options : ServiceOptions) (encrypted : Bool)
    (request : HttpRequest) : HttpAnswer :=
  let fail (message : String) : HttpAnswer := .respond [httpResponse site message] false
  let named := options.name.isSome && request.serviceName.isSome
  let redirect : HttpAnswer :=
    .respond [redirectToSubdirectory site options encrypted request] true
  if request.failure then fail "500 Internal server error"
  else if request.invalid || request.host.isNone then fail "400 Bad request"
  else if request.unsupported then fail "405 Unimplemented"
  else if request.http != some (ascii "HTTP/1.1") then fail "505 HTTP Version Not Supported"
  else if named && request.filename.isNone && request.upgradeType.isNone &&
      sameName request.serviceName options.name then redirect
  else if named && request.upgradeType.isNone && request.serviceName == some [] then redirect
  else if named && !sameName request.serviceName options.name then
    .elsewhere (request.serviceName.getD [])
  else match request.upgradeType with
    | none =>
        let (messages, tryAgain) := httpFileRequest site options encrypted request
        .respond messages tryAgain
    | some upgrade =>
        if upgrade.strcasecmp (ascii "websocket") != .eq then fail "501 Not Implemented"
        else if request.websocketVersion != some (ascii "13") then
          .respond [httpHeader site (ascii "400 Bad Request")
            (some (ascii "Sec-WebSocket-Version: 13"))
            (some (ascii "Unsupported websocket version.  13 is supported."))] true
        else if request.websocketProtocol.isSome then fail "415 Unsupported Media Type"
        else match request.websocketKey with
          | none => fail "400 Bad Request"
          | some key => .upgrade key

/-- The messages that greet a WebSocket client. -/
def websocketGreeting (site : Site) (key : Text) : List Text :=
  [ascii "HTTP/1.1 101 Switching Protocols\r\nUpgrade: websocket\r\nConnection: Upgrade\r\n" ++
      ascii "Sec-WebSocket-Accept: ",
    site.acceptCode key, ascii "\r\n", ascii "\r\n"]

/-! ## Answering -/

namespace Connection

/-- Queue messages one after another. -/
def writeMessages (connection : Connection) : List Text → Except Fault Connection
  | [] => .ok connection
  | message :: messages =>
      match connection.queueHttp message with
      | .error fault => .error fault
      | .ok sent => sent.writeMessages messages

/-- Send a response; afterwards the client may start over, or the connection closes. -/
def respond (connection : Connection) (messages : List Text) (tryAgain : Bool) :
    Except Fault Connection :=
  match connection.writeMessages messages with
  | .error fault => .error fault
  | .ok sent =>
      let reset := { sent with request := .none }
      if tryAgain then
        if reset.state.rank < SocketState.opened.rank then .ok { reset with state := .greeting }
        else .ok reset
      else .ok reset.closeConnection

/-- Greet a WebSocket client and open the session. -/
def upgradeWebsocket (connection : Connection) (greeting : List Text) :
    Except Fault Connection :=
  match connection.writeMessages greeting with
  | .error fault => .error fault
  | .ok sent => .ok { sent with state := .opened, request := .none }

end Connection

end Football
