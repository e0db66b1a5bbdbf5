import Courier.Network.Basic

/-! # Exchanges

An exchange sends one request and reads one answer. It is refused before anything is sent when the
request is faulty or the caller may not wait. After that a strategy either makes a connection of its
own to the host of the URL and writes the target, or gives the whole URL as target to a pool, which
finds in it where to connect and what to write. Each has its own way to report what goes wrong.
-/

namespace Courier

/-- The circumstances of a call. -/
structure Caller where
  /-- The call is made where nothing may wait. -/
  inAsync : Bool
  /-- The caller has given up already. -/
  cancelled : Bool
  deriving DecidableEq, Repr

/-- A caller that may wait and does. -/
def Caller.patient : Caller := ⟨false, false⟩

/-- What comes of an exchange. -/
structure Outcome where
  result : Except Failure Response
  /-- The request that was sent, if one was. -/
  sent : Option WireRequest

namespace Outcome

/-- An exchange that fails before a request is sent. -/
def unsent (failure : Failure) : Outcome := ⟨.error failure, none⟩

/-- The outcome with its failure tied to a URL. -/
def attach (outcome : Outcome) (url : Url) : Outcome :=
  match outcome.result with
  | .ok _ => outcome
  | .error failure => ⟨.error (failure.attach url), outcome.sent⟩

end Outcome

/-- The host of a target with what is written around it. -/
structure Authority where
  /-- The name and password, with the mark that ends them. -/
  credentials : String
  host : Host
  /-- The port, if it is written. -/
  port : Option UInt16
  deriving DecidableEq, Repr

/-- The text of an authority. -/
def Authority.text (authority : Authority) : String :=
  authority.credentials ++ authority.host.text ++ Url.portText authority.port

/-- A request that is put on a connection. -/
structure Draft where
  method : Method
  target : String
  headers : Headers
  body : Bytes
  deriving DecidableEq, Repr

/-- The headers of a draft, with the length of a body of which they do not tell it. -/
def Draft.sized (draft : Draft) : Headers :=
  if draft.body = [] ∨ draft.headers.contains .contentLength then draft.headers
  else draft.headers.append .contentLength ⟨Utf8.encode (Nat.repr draft.body.length)⟩

/-- A draft as it arrives at a host. -/
def Draft.wire (draft : Draft) (host : Host) (port : UInt16) : WireRequest :=
  { host := host.text, port, method := draft.method, target := draft.target
    headers := draft.sized.pairs, body := draft.body }

/-- What comes of an answer until its head has been read. -/
inductive Delivery
  /-- A head, and the body that follows it. -/
  | arrived (head : Head) (body : Wire.Incoming)
  | broken (fault : ReplyFault)
  /-- No more comes. -/
  | stalled
  deriving DecidableEq, Repr

namespace Exchange

/-- What is checked before anything is done: the setters of the request, the caller, the scheme. -/
def preflight (caller : Caller) (request : Request) : Except Failure Unit := do
  request.check
  let refuse := fun (cause : Cause) => (Failure.of .builder cause).withUrl request.url
  if caller.inAsync then throw (refuse .blockingInAsyncContext)
  if request.url.scheme ≠ "http" then throw (refuse (.unsupportedScheme request.url.scheme))

/-! ## Before a connection -/

/-- How long a written target may be. -/
def targetLimit : Nat := 65534

/-- A character of a host that cannot be written into a target. -/
def isUnwritable (c : Char) : Bool := "\"`\x7b\x7d".contains c

/-- The failure of a target that cannot be written. -/
def unwritten (url : Url) (fault : TargetFault) : Failure :=
  (Failure.of .builder (.target fault)).withUrl url

/-- The host of a URL that has one. -/
def host? (url : Url) : Except Failure Host :=
  match url.host with
  | none | some .empty => .error (.of .builder (.text "URL has no host"))
  | some host => .ok host

/-- The value of the header that names a host, with the port if the URL names one. -/
def hostValue (host : Host) (port : Option UInt16) : HeaderValue :=
  ⟨Utf8.encode (host.text ++ Url.portText port)⟩

/-- Headers with the host among them. -/
def withHost (headers : Headers) (host : Host) (port : Option UInt16) : Headers :=
  if headers.contains .host then headers else headers.append .host (hostValue host port)

/-- A request that is put on a connection of one's own: the target is the path with the query, and
it is written only now. -/
def ownDraft (request : Request) (host : Host) : Except Failure Draft :=
  if targetLimit < request.url.target.utf8ByteSize then .error (unwritten request.url .tooLong)
  else .ok ⟨request.method, request.url.target, withHost request.headers host request.url.port,
    request.body.getD []⟩

/-- The authority and the path of a target in absolute form, the whole URL as one text, which is
what a pool is given. -/
def absoluteTarget (url : Url) : Except Failure (Authority × String) :=
  if targetLimit < url.text.utf8ByteSize then .error (unwritten url .tooLong)
  else if url.authorityText.any isUnwritable then .error (unwritten url .invalidCharacter)
  else (host? url).map fun host => (⟨url.credentialsText, host, url.port⟩, url.target)

/-- A request that a pool puts on a connection to an authority. Of the target only the path is
written, but a request for a tunnel names the authority instead. -/
def poolDraft (request : Request) (authority : Authority) (path : String) : Draft :=
  ⟨request.method, if request.method = .connect then authority.text else path,
    withHost request.headers authority.host authority.port, request.body.getD []⟩

/-! ## Connecting -/

/-- The port to which a connection is made when a URL names none. -/
def standardPort : UInt16 := 80

/-- The words in which a system reports that it did not connect. -/
def connectMessage : SocketFault.Kind → String
  | .timedOut => "connection timed out"
  | .refused => "connection refused"
  | .unreachable => "host unreachable"
  | .unresolved => "failed to lookup address information"
  | .other => "connection failed"

/-- A report that no connection was made. -/
def connectFault (kind : SocketFault.Kind) : Cause := .socket ⟨kind, connectMessage kind⟩

/-- What goes wrong on a connection of one's own, which may be that time ran out. -/
def ownFailure (cause : Cause) : Failure :=
  if cause.hasTimedOut then .of (.timeout .read) cause else .of .request cause

/-- What goes wrong in a pool, before it has a connection or later. -/
def poolFailure (connecting : Bool) (cause : Cause) : Failure :=
  match connecting, cause.hasTimedOut with
  | true, true => .of (.timeout .connect) cause
  | true, false => .of .connect cause
  | false, true => .of (.timeout .read) cause
  | false, false => .of .request cause

/-- The request that arrives over a connection of one's own, which is made first. -/
def prepareOwn (network : Network) (request : Request) : Except Failure WireRequest :=
  let port := request.url.effectivePort?.getD standardPort
  (host? request.url).bind fun host =>
    match network.reach true host port with
    | .failed kind => .error (.of .connect (connectFault kind))
    | .stalled => .error (.timeout .connect)
    | .accepted => (ownDraft request host).map fun draft => draft.wire host port

/-- The request that arrives over a connection of a pool, which takes from the target where to
connect. An attempt that does not end is given up as one that the system has given up. -/
def preparePooled (network : Network) (request : Request) : Except Failure WireRequest :=
  (absoluteTarget request.url).bind fun (authority, path) =>
    let port := authority.port.getD standardPort
    match network.reach false authority.host port with
    | .failed kind => .error (poolFailure true (connectFault kind))
    | .stalled => .error (poolFailure true (connectFault .timedOut))
    | .accepted => .ok ((poolDraft request authority path).wire authority.host port)

/-- The request that arrives when a strategy has a connection. -/
def prepare (network : Network) (strategy : Strategy) (request : Request) :
    Except Failure WireRequest :=
  match strategy with
  | .blocking => prepareOwn network request
  | .pooled | .task => preparePooled network request

/-! ## Reading the answer -/

/-- How a strategy reports what goes wrong on a connection. -/
def classify : Strategy → Cause → Failure
  | .blocking => ownFailure
  | .pooled | .task => poolFailure false

/-- What comes of an answer until its head has been read. -/
def deliver (method : Method) (answer : Answer) : Delivery :=
  match Wire.readFinalHead (answer.bytes.length + 1) answer.bytes with
  | .malformed => .broken .malformed
  | .incomplete =>
    match answer.ending with
    | .closed => .broken .closedEarly
    | .held => .stalled
  | .complete head rest =>
    match Wire.framing? method head with
    | none => .broken .malformed
    | some framing => .arrived head (Wire.incoming framing answer.ending rest)

/-- The response that an answer makes. -/
def receive (strategy : Strategy) (request : Request) (redirects : UInt32) (answer : Answer) :
    Except Failure Response :=
  if answer.cancels then .error .cancelled
  else
    match deliver request.method answer with
    | .broken fault => .error (classify strategy (.reply fault))
    | .stalled => .error (.timeout .read)
    | .arrived head body =>
      (Wire.readBody request.bodyCap body).map fun body =>
        { status := head.status, version := head.version, headers := head.headers, body, request
          redirects, strategy }

/-- An exchange that nothing keeps from being started. -/
def start (network : Network) (log : Log) (strategy : Strategy) (request : Request)
    (redirects : UInt32) : Outcome :=
  match prepare network strategy request with
  | .error failure => .unsent failure
  | .ok sent =>
    let answer := (network.reply log sent).answer request.method
    ⟨receive strategy request redirects answer, some sent⟩

/-- One exchange after the requests of a log. -/
def conduct (network : Network) (log : Log) (caller : Caller) (strategy : Strategy)
    (request : Request) (redirects : UInt32) : Outcome :=
  match preflight caller request with
  | .error failure => .unsent failure
  | .ok () =>
    let outcome :=
      if caller.cancelled then .unsent .cancelled
      else start network log strategy request redirects
    outcome.attach request.url

/-! ## What a response is the answer to -/

theorem receive_ok {strategy : Strategy} {request : Request} {redirects : UInt32}
    {answer : Answer} {response : Response}
    (received : receive strategy request redirects answer = .ok response) :
    response.request = request ∧ response.redirects = redirects := by
  unfold receive at received
  split at received
  · cases received
  · split at received
    · cases received
    · cases received
    · unfold Except.map at received
      split at received
      · cases received
      · cases received
        exact ⟨rfl, rfl⟩

theorem start_ok {network : Network} {log : Log} {strategy : Strategy} {request : Request}
    {redirects : UInt32} {response : Response}
    (started : (start network log strategy request redirects).result = .ok response) :
    response.request = request ∧ response.redirects = redirects := by
  unfold start at started
  split at started
  · cases started
  · exact receive_ok started

theorem Outcome.attach_ok {outcome : Outcome} {url : Url} {response : Response}
    (attached : (outcome.attach url).result = .ok response) : outcome.result = .ok response := by
  unfold Outcome.attach at attached
  split at attached
  · exact attached
  · cases attached

/-- A response answers the request of its exchange. -/
theorem conduct_ok {network : Network} {log : Log} {caller : Caller} {strategy : Strategy}
    {request : Request} {redirects : UInt32} {response : Response}
    (conducted : (conduct network log caller strategy request redirects).result = .ok response) :
    response.request = request ∧ response.redirects = redirects := by
  unfold conduct at conducted
  split at conducted
  · cases conducted
  · have reached := Outcome.attach_ok conducted
    split at reached
    · cases reached
    · exact start_ok reached

end Exchange

end Courier
